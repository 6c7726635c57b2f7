/-! Finite maps kept as lists with strictly ascending keys, so that a map is visited in key order
and equal maps are equal lists. -/
namespace GridQuery

/-- Entries with strictly ascending keys. -/
structure SortedMap (κ α : Type) [LT κ] where
  entries : List (κ × α)
  ascending : entries.Pairwise fun first second => first.1 < second.1
  deriving DecidableEq

namespace SortedMap

variable {κ α : Type} [LT κ]

def empty : SortedMap κ α := ⟨[], .nil⟩

instance : Inhabited (SortedMap κ α) := ⟨empty⟩

def values (map : SortedMap κ α) : List α := map.entries.map (·.2)

def get? [DecidableEq κ] (map : SortedMap κ α) (key : κ) : Option α := map.entries.lookup key

def erase [DecidableEq κ] (map : SortedMap κ α) (key : κ) : SortedMap κ α :=
  ⟨map.entries.filter fun entry => decide (entry.1 ≠ key), map.ascending.filter _⟩

/-- Puts an entry at its place; the value of an equal key is replaced. -/
def insertEntry [DecidableLT κ] (key : κ) (value : α) : List (κ × α) → List (κ × α)
  | [] => [(key, value)]
  | entry :: rest =>
    if key < entry.1 then (key, value) :: entry :: rest
    else if entry.1 < key then entry :: insertEntry key value rest
    else (key, value) :: rest

theorem mem_insertEntry [DecidableLT κ] {key : κ} {value : α} {entries : List (κ × α)}
    {entry : κ × α} (member : entry ∈ insertEntry key value entries) :
    entry = (key, value) ∨ entry ∈ entries := by
  induction entries with
  | nil => simpa [insertEntry] using member
  | cons head rest ih =>
    simp only [insertEntry] at member
    split at member
    · simpa using member
    · split at member
      · rcases List.mem_cons.mp member with rfl | inRest
        · simp
        · rcases ih inRest with rfl | old
          · simp
          · simp [old]
      · rcases List.mem_cons.mp member with rfl | old
        · simp
        · simp [old]

variable [LE κ] [DecidableLT κ] [Std.LawfulOrderLT κ] [Std.IsLinearOrder κ]

theorem ascending_insertEntry (key : κ) (value : α) (entries : List (κ × α))
    (ascending : entries.Pairwise fun first second => first.1 < second.1) :
    (insertEntry key value entries).Pairwise fun first second => first.1 < second.1 := by
  induction entries with
  | nil => simp [insertEntry]
  | cons head rest ih =>
    have ⟨before, tail⟩ := List.pairwise_cons.mp ascending
    simp only [insertEntry]
    split
    case isTrue below =>
      refine List.pairwise_cons.mpr ⟨fun entry member => ?_, ascending⟩
      rcases List.mem_cons.mp member with rfl | inRest
      · exact below
      · exact Std.lt_trans below (before entry inRest)
    case isFalse notBelow =>
      split
      case isTrue above =>
        refine List.pairwise_cons.mpr ⟨fun entry member => ?_, ih tail⟩
        rcases mem_insertEntry member with rfl | inRest
        · exact above
        · exact before entry inRest
      case isFalse notAbove =>
        have same : key = head.1 :=
          Std.le_antisymm (Std.not_lt.mp notAbove) (Std.not_lt.mp notBelow)
        exact List.pairwise_cons.mpr ⟨fun entry member => same ▸ before entry member, tail⟩

def insert (map : SortedMap κ α) (key : κ) (value : α) : SortedMap κ α :=
  ⟨insertEntry key value map.entries, ascending_insertEntry key value _ map.ascending⟩

/-- The map of a list of entries; of equal keys the last one counts. -/
def ofList (entries : List (κ × α)) : SortedMap κ α :=
  entries.foldl (fun map entry => map.insert entry.1 entry.2) empty

variable [DecidableEq κ]

omit [Std.IsLinearOrder κ] in
theorem lookup_insertEntry_self (key : κ) (value : α) (entries : List (κ × α)) :
    (insertEntry key value entries).lookup key = some value := by
  induction entries with
  | nil => simp [insertEntry]
  | cons head rest ih =>
    obtain ⟨first, content⟩ := head
    simp only [insertEntry]
    split
    · simp
    · split
      case isTrue above =>
        have differs : key ≠ first := fun same => Std.lt_irrefl (same ▸ above)
        simp [List.lookup_cons, beq_eq_false_iff_ne.mpr differs, ih]
      · simp

theorem lookup_insertEntry_of_ne {key other : κ} (differs : other ≠ key) (value : α)
    (entries : List (κ × α)) :
    (insertEntry key value entries).lookup other = entries.lookup other := by
  induction entries with
  | nil => simp [insertEntry, List.lookup_cons, beq_eq_false_iff_ne.mpr differs]
  | cons head rest ih =>
    obtain ⟨first, content⟩ := head
    simp only [insertEntry]
    split
    · simp [List.lookup_cons, beq_eq_false_iff_ne.mpr differs]
    · split
      · simp [List.lookup_cons, ih]
      case isFalse notBelow notAbove =>
        have same : key = first := Std.le_antisymm (Std.not_lt.mp notAbove) (Std.not_lt.mp notBelow)
        simp [List.lookup_cons, beq_eq_false_iff_ne.mpr differs,
          beq_eq_false_iff_ne.mpr (same ▸ differs)]

@[simp]
theorem get?_insert_self (map : SortedMap κ α) (key : κ) (value : α) :
    (map.insert key value).get? key = some value :=
  lookup_insertEntry_self key value map.entries

theorem get?_insert_of_ne (map : SortedMap κ α) {key other : κ} (differs : other ≠ key)
    (value : α) : (map.insert key value).get? other = map.get? other :=
  lookup_insertEntry_of_ne differs value map.entries

end SortedMap

end GridQuery
