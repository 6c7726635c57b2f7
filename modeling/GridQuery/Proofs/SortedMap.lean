import GridQuery.SortedMap
import Mathlib.Data.List.Sort

/-! Sorted maps by what they hold at each key: what is read off the entries in their order depends
on nothing else, and a map made of a list of entries holds the last one of each key. Where keys are
read as places in another map, the greatest of those that are read as one place counts there. -/
namespace GridQuery.SortedMap

variable {κ α β : Type} [LT κ] [LE κ] [Std.LawfulOrderLT κ] [DecidableEq κ]

theorem get?_eq_some_iff {map : SortedMap κ α} {key : κ} {value : α} :
    map.get? key = some value ↔ (key, value) ∈ map.entries := by
  obtain ⟨entries, ascending⟩ := map
  simp only [get?]
  induction entries with
  | nil => simp
  | cons head rest ih =>
    obtain ⟨first, content⟩ := head
    obtain ⟨before, tail⟩ := List.pairwise_cons.mp ascending
    by_cases here : key = first
    · subst here
      -- The keys behind are greater, so that the value is that of the head.
      have absent : (key, value) ∉ rest := by
        intro member
        exact Std.lt_irrefl (before (key, value) member)
      simp [absent, eq_comm]
    · simp [List.lookup_cons, beq_eq_false_iff_ne.mpr here, here, ih tail]

theorem get?_erase_self (map : SortedMap κ α) (key : κ) : (map.erase key).get? key = none := by
  rw [Option.eq_none_iff_forall_ne_some]
  intro value found
  have member := get?_eq_some_iff.mp found
  simp [erase] at member

theorem get?_erase_of_ne (map : SortedMap κ α) {key other : κ} (differs : other ≠ key) :
    (map.erase key).get? other = map.get? other := by
  ext value
  rw [get?_eq_some_iff, get?_eq_some_iff]
  simp [erase, differs]

/-- The entries by key, as far as something is read off them. -/
def readings (map : SortedMap κ α) (read : κ → α → Option β) : List (κ × β) :=
  map.entries.filterMap fun entry => (read entry.1 entry.2).map (entry.1, ·)

theorem mem_readings {map : SortedMap κ α} {read : κ → α → Option β} {key : κ} {value : β} :
    (key, value) ∈ map.readings read ↔ (map.get? key).bind (read key) = some value := by
  simp only [readings, List.mem_filterMap, Option.bind_eq_some_iff, get?_eq_some_iff]
  constructor
  · rintro ⟨⟨place, content⟩, member, found⟩
    obtain ⟨_, reading, same⟩ := Option.map_eq_some_iff.mp found
    cases same
    exact ⟨content, member, reading⟩
  · rintro ⟨content, member, reading⟩
    exact ⟨(key, content), member, by simp [reading]⟩

omit [LE κ] [Std.LawfulOrderLT κ] [DecidableEq κ] in
theorem ascending_readings (map : SortedMap κ α) (read : κ → α → Option β) :
    (map.readings read).Pairwise fun first second => first.1 < second.1 := by
  refine map.ascending.filterMap _ fun first second less found here found' there => ?_
  obtain ⟨_, _, rfl⟩ := Option.map_eq_some_iff.mp here
  obtain ⟨_, _, rfl⟩ := Option.map_eq_some_iff.mp there
  exact less

/-- Maps from which the same is read at each key give the same readings in the same order. -/
theorem filterMap_entries_eq {first second : SortedMap κ α} (read : κ → α → Option β)
    (same : ∀ key, (first.get? key).bind (read key) = (second.get? key).bind (read key)) :
    first.entries.filterMap (fun entry => read entry.1 entry.2) =
      second.entries.filterMap fun entry => read entry.1 entry.2 := by
  have strict : Std.Irrefl fun first second : κ × β => first.1 < second.1 :=
    ⟨fun _ => Std.lt_irrefl⟩
  have oneWay : Std.Antisymm fun first second : κ × β => first.1 < second.1 :=
    ⟨fun _ _ less greater => absurd greater (Std.Asymm.asymm _ _ less)⟩
  have readings : first.readings read = second.readings read := by
    refine (first.ascending_readings read).eq_of_mem_iff (second.ascending_readings read) ?_
    rintro ⟨key, value⟩
    rw [mem_readings, mem_readings, same]
  have values (map : SortedMap κ α) : map.entries.filterMap (fun entry => read entry.1 entry.2) =
      (map.readings read).map (·.2) := by
    simp [SortedMap.readings, List.map_filterMap, Function.comp_def]
  rw [values, values, readings]

theorem ext_get? {first second : SortedMap κ α} (same : ∀ key, first.get? key = second.get? key) :
    first = second := by
  have agree (key : κ) : (first.get? key).bind (fun value => some (key, value)) =
      (second.get? key).bind fun value => some (key, value) := by rw [same]
  have entries := filterMap_entries_eq (fun key value => some (key, value)) agree
  obtain ⟨firstEntries, _⟩ := first
  obtain ⟨secondEntries, _⟩ := second
  simpa using entries

section Listed

variable [DecidableLT κ] [Std.IsLinearOrder κ]

theorem get?_foldl_insert (entries : List (κ × α)) (map : SortedMap κ α) (key : κ) :
    (entries.foldl (fun map entry => map.insert entry.1 entry.2) map).get? key =
      (entries.reverse.lookup key).or (map.get? key) := by
  induction entries generalizing map with
  | nil => rfl
  | cons entry rest ih =>
    obtain ⟨place, value⟩ := entry
    rw [List.foldl_cons, ih, List.reverse_cons, List.lookup_append, Option.or_assoc]
    -- What the map holds at the key of the first entry is replaced.
    by_cases here : key = place
    · subst here
      simp
    · rw [get?_insert_of_ne _ here]
      simp [List.lookup_cons, beq_eq_false_iff_ne.mpr here]

/-- Of the entries with one key the last one counts. -/
theorem get?_ofList (entries : List (κ × α)) (key : κ) :
    (ofList entries).get? key = entries.reverse.lookup key := by
  rw [ofList, get?_foldl_insert]
  exact Option.or_none

/-- A list that holds just what a map holds makes this map, in whatever order it holds it. -/
theorem ofList_eq_of_mem_iff {entries : List (κ × α)} {map : SortedMap κ α}
    (same : ∀ key value, (key, value) ∈ entries ↔ map.get? key = some value) :
    ofList entries = map := by
  refine ext_get? fun key => ?_
  rw [get?_ofList]
  cases found : entries.reverse.lookup key with
  | some value =>
    obtain ⟨before, after, split, _⟩ := List.lookup_eq_some_iff.mp found
    have member : (key, value) ∈ entries := by
      rw [← List.mem_reverse, split]
      simp
    exact ((same key value).mp member).symm
  | none =>
    rw [eq_comm, Option.eq_none_iff_forall_ne_some]
    intro value holds
    have member := List.mem_reverse.mpr ((same key value).mpr holds)
    have differs := List.lookup_eq_none_iff.mp found (key, value) member
    simp at differs

end Listed

section Descending

variable [Std.IsLinearOrder κ]

omit [DecidableEq κ] in
/-- Where the keys descend, what is read first is read at the greatest of the keys at which there is
something to read. -/
theorem findSome?_of_descending {entries : List (κ × α)}
    (descending : entries.Pairwise fun first second => second.1 < first.1)
    {read : κ × α → Option β} {value : β} :
    entries.findSome? read = some value ↔
      ∃ entry ∈ entries, read entry = some value ∧
        ∀ other ∈ entries, (read other).isSome → other.1 ≤ entry.1 := by
  rw [List.findSome?_eq_some_iff]
  constructor
  · rintro ⟨greater, entry, less, rfl, reading, unread⟩
    have below := (List.pairwise_cons.mp (List.pairwise_append.mp descending).2.1).1
    refine ⟨entry, by simp, reading, fun other member found => ?_⟩
    rcases List.mem_append.mp member with before | behind
    · simp [unread other before] at found
    · rcases List.mem_cons.mp behind with rfl | after
      · exact Std.le_refl _
      · exact Std.le_of_lt (below other after)
  · rintro ⟨entry, member, reading, greatest⟩
    obtain ⟨greater, less, rfl⟩ := List.append_of_mem member
    refine ⟨greater, entry, less, rfl, reading, fun other before => ?_⟩
    have above : entry.1 < other.1 :=
      (List.pairwise_append.mp descending).2.2 other before entry List.mem_cons_self
    rw [← Option.not_isSome_iff_eq_none]
    intro found
    exact absurd (greatest other (List.mem_append_left _ before) found) (Std.not_le.mpr above)

end Descending

section Placed

variable {ι : Type} [DecidableEq ι]

/-- What something comes to at one place, if it is read as an entry of that place. -/
def readAt (read : α → Option (ι × β)) (place : ι) (source : α) : Option β :=
  (read source).bind fun entry => if place = entry.1 then some entry.2 else none

theorem readAt_eq_some_iff {read : α → Option (ι × β)} {place : ι} {source : α} {value : β} :
    readAt read place source = some value ↔ read source = some (place, value) := by
  constructor
  · intro found
    obtain ⟨entry, reading, same⟩ := Option.bind_eq_some_iff.mp found
    split at same
    next here =>
      cases same
      rw [reading, here]
    next => cases same
  · intro reading
    rw [readAt, reading, Option.bind_some, if_pos rfl]

theorem lookup_filterMap (read : α → Option (ι × β)) (place : ι) (sources : List α) :
    (sources.filterMap read).lookup place = sources.findSome? (readAt read place) := by
  induction sources with
  | nil => rfl
  | cons source rest ih =>
    rw [List.findSome?_cons]
    cases reading : read source with
    | none => simp [readAt, reading, ih]
    | some entry =>
      obtain ⟨other, value⟩ := entry
      by_cases here : place = other
      · simp [readAt, reading, here]
      · simp [readAt, reading, List.lookup_cons, beq_eq_false_iff_ne.mpr here, here, ih]

variable [LT ι] [LE ι] [DecidableLT ι] [Std.LawfulOrderLT ι] [Std.IsLinearOrder ι]

theorem get?_ofList_filterMap (read : α → Option (ι × β)) (place : ι) (sources : List α) :
    (ofList (sources.filterMap read)).get? place =
      sources.reverse.findSome? (readAt read place) := by
  rw [get?_ofList, ← List.filterMap_reverse, lookup_filterMap]

/-- The places of a map read off another are those that some entry is read at. -/
theorem isSome_get?_ofList_filterMap {map : SortedMap κ α} {read : κ × α → Option (ι × β)}
    {place : ι} :
    ((ofList (map.entries.filterMap read)).get? place).isSome ↔
      ∃ key content value, map.get? key = some content ∧
        read (key, content) = some (place, value) := by
  rw [get?_ofList_filterMap, List.findSome?_isSome_iff]
  simp only [List.mem_reverse, Prod.exists, Option.isSome_iff_exists, readAt_eq_some_iff,
    get?_eq_some_iff, exists_and_left]

/-- Of the keys that are read at one place the greatest counts. -/
theorem get?_ofList_filterMap_eq_some_iff [Std.IsLinearOrder κ] {map : SortedMap κ α}
    {read : κ × α → Option (ι × β)} {place : ι} {value : β} :
    (ofList (map.entries.filterMap read)).get? place = some value ↔
      ∃ key content, map.get? key = some content ∧ read (key, content) = some (place, value) ∧
        ∀ other found, map.get? other = some found →
          (∃ value, read (other, found) = some (place, value)) → other ≤ key := by
  rw [get?_ofList_filterMap, findSome?_of_descending (List.pairwise_reverse.mpr map.ascending)]
  simp only [List.mem_reverse, Prod.exists, Prod.forall, Option.isSome_iff_exists,
    readAt_eq_some_iff, get?_eq_some_iff]

end Placed

end GridQuery.SortedMap
