import GridQuery.Grid.Request.Wire
import GridQuery.Proofs.Decimal.Doubles
import GridQuery.Proofs.Decimal.Spelled
import GridQuery.Proofs.SortedMap

/-! Requests whose keys are malformed or name one position in several spellings. Whatever order the
members were sent in, a position holds what stands under the greatest key that names it; among the
filters only keys with a text under them count, among the sort codes all do. -/
namespace GridQuery.Grid.Wire

/-- A key names a position by spelling it among white space. -/
def Names (key : String) (position : Nat) : Prop :=
  Decimal.SpellsAmongWhite key position ∧ position ≤ maxUnsigned

/-- The text of a filter. Null, arrays and objects have none. -/
inductive HasText : Json → String → Prop where
  | string (text : String) : HasText (.string text) text
  | number (n : Json.Number) : HasText (.number n) n.text
  | true : HasText (.boolean true) "true"
  | false : HasText (.boolean false) "false"

/-- The integer that stands for a value. A text counts with the digits at its front and a number
with its whole part, both cut off at the signed range; what is neither counts as zero. -/
inductive ReadsInteger : Json → Int → Prop where
  | integer (n : Int) : ReadsInteger (.number (.integer n)) (clampSigned n)
  | double {double : Decimal.Binary64} {x : ℚ} : double.value? = some x →
    ReadsInteger (.number (.double double)) (clampSigned (Decimal.truncated x))
  | above : ReadsInteger (.number (.double (.infinite false))) maxSigned
  | below : ReadsInteger (.number (.double (.infinite true))) minSigned
  | nan : ReadsInteger (.number (.double .nan)) 0
  | string {text : String} (front : Decimal.Front) : front.written = text.toList →
    ReadsInteger (.string text) (front.mark.factor * (min front.magnitude maxSigned : Nat))
  | null : ReadsInteger .null 0
  | boolean (value : Bool) : ReadsInteger (.boolean value) 0
  | array (elements : List Json) : ReadsInteger (.array elements) 0
  | object (members : List (String × Json)) : ReadsInteger (.object members) 0

/-- The greatest of the keys that name a position and have something under them that counts. -/
structure Wins (sent : SortedMap String Json) (counts : Json → Prop) (position : Nat) (key : String)
    (json : Json) : Prop where
  stands : sent.get? key = some json
  names : Names key position
  counted : counts json
  greatest : ∀ other found, sent.get? other = some found → Names other position → counts found →
    other ≤ key

theorem position?_eq_some_iff {key : String} {position : Nat} :
    position? key = some position ↔ Names key position :=
  Decimal.natural?_trim_eq_some_iff

theorem scalarText?_eq_some_iff {json : Json} {text : String} :
    scalarText? json = some text ↔ HasText json text := by
  constructor
  · intro read
    rw [scalarText?.eq_def] at read
    split at read
    next => cases read; exact .string _
    next => cases read; exact .number _
    next value => cases value <;> cases read <;> constructor
    next => cases read
  · intro text
    cases text <;> rfl

theorem readsInteger_integerOf (json : Json) : ReadsInteger json (integerOf json) := by
  cases json with
  | number n =>
    cases n with
    | integer n => exact .integer n
    | double double =>
      cases double with
      | finite negative magnitude =>
        rw [integerOf, Decimal.Binary64.toSigned_of_value rfl]
        exact .double rfl
      | infinite negative =>
        cases negative
        · exact .above
        · exact .below
      | nan => exact .nan
  | string text =>
    obtain ⟨front, written⟩ := Decimal.Front.exists_written text.toList
    rw [integerOf, front.leadingInteger_eq written]
    exact .string front written
  | null => exact .null
  | boolean value => exact .boolean value
  | array elements => exact .array elements
  | object members => exact .object members

theorem integerOf_eq_iff {json : Json} {n : Int} : integerOf json = n ↔ ReadsInteger json n := by
  constructor
  · rintro rfl
    exact readsInteger_integerOf json
  · intro reads
    cases reads with
    | double stands => exact Decimal.Binary64.toSigned_of_value stands
    | string front written => exact front.leadingInteger_eq written
    | _ => rfl

section Positioned

variable {α : Type} {value? : Json → Option α}

theorem positioned?_eq_some_iff {key : String} {json : Json} {position : Nat} {value : α} :
    positioned? value? (key, json) = some (position, value) ↔
      Names key position ∧ value? json = some value := by
  rw [← position?_eq_some_iff, positioned?]
  cases position? key <;> cases value? json <;> simp

/-- Of the keys that name one position the greatest counts, those apart under which nothing can be
read. -/
theorem get?_positioned {sent : SortedMap String Json} {position : Nat} {value : α} :
    (SortedMap.ofList (sent.entries.filterMap (positioned? value?))).get? position = some value ↔
      ∃ key json, Wins sent (fun json => ∃ value, value? json = some value) position key json ∧
        value? json = some value := by
  simp only [SortedMap.get?_ofList_filterMap_eq_some_iff, positioned?_eq_some_iff]
  constructor
  · rintro ⟨key, json, stands, ⟨names, read⟩, greatest⟩
    refine ⟨key, json, ⟨stands, names, ⟨value, read⟩, fun other found sent named reads => ?_⟩, read⟩
    obtain ⟨content, reads⟩ := reads
    exact greatest other found sent ⟨content, named, reads⟩
  · rintro ⟨key, json, wins, read⟩
    refine ⟨key, json, wins.stands, ⟨wins.names, read⟩, ?_⟩
    rintro other found sent ⟨content, named, reads⟩
    exact wins.greatest other found sent named ⟨content, reads⟩

theorem isSome_get?_positioned {sent : SortedMap String Json} {position : Nat} :
    ((SortedMap.ofList (sent.entries.filterMap (positioned? value?))).get? position).isSome ↔
      ∃ key json value, sent.get? key = some json ∧ Names key position ∧
        value? json = some value := by
  simp only [SortedMap.isSome_get?_ofList_filterMap, positioned?_eq_some_iff]

end Positioned

theorem pageSize_of_ne {defaultSize : Nat} {size : Json} (present : size ≠ .null)
    (limited : size ≠ .string "all") :
    pageSize defaultSize size = .rows (integerOf size).toNat := by
  rw [pageSize.eq_def]
  split
  next => exact absurd rfl present
  next => exact absurd rfl limited
  next => rfl

theorem ofList_of_perm {α : Type} {entries : List (String × α)} {map : SortedMap String α}
    (shuffled : entries.Perm map.entries) : SortedMap.ofList entries = map := by
  refine SortedMap.ofList_eq_of_mem_iff fun key value => ?_
  rw [shuffled.mem_iff, SortedMap.get?_eq_some_iff]

/-- A position of the filters holds the text under the greatest key that names it and has a text; it
is there just if there is such a key. A position of the sort codes holds the integer that is read
from what stands under the greatest key that names it, whatever that is. Page and size are read as
integers as well, cut off below zero, but for the size that is missing and for the word that stands
for all rows. The order in which the members were sent plays no part. -/
theorem toRequest_by_greatest_key (wire : Wire) (defaultSize : Nat) :
    let request := wire.toRequest defaultSize
    (∀ position text, request.filter.get? position = some text ↔
      ∃ key json, Wins wire.filter (fun json => ∃ text, HasText json text) position key json ∧
        HasText json text) ∧
    (∀ position, (request.filter.get? position).isSome ↔
      ∃ key json text, wire.filter.get? key = some json ∧ Names key position ∧
        HasText json text) ∧
    (∀ position code, request.sort.get? position = some code ↔
      ∃ key json, Wins wire.sort (fun _ => True) position key json ∧ ReadsInteger json code) ∧
    (∀ position, (request.sort.get? position).isSome ↔
      ∃ key json, wire.sort.get? key = some json ∧ Names key position) ∧
    (∃ n, ReadsInteger wire.page n ∧ (request.page : Int) = max 0 n) ∧
    (wire.size = .null → request.size = .rows defaultSize) ∧
    (wire.size = .string "all" → request.size = .all) ∧
    (wire.size ≠ .null → wire.size ≠ .string "all" →
      ∃ (n : Int) (count : Nat), ReadsInteger wire.size n ∧ (count : Int) = max 0 n ∧
        request.size = .rows count) ∧
    ∀ sort filter : List (String × Json), sort.Perm wire.sort.entries →
      filter.Perm wire.filter.entries →
      toRequest { wire with sort := .ofList sort, filter := .ofList filter } defaultSize =
        request := by
  intro request
  refine ⟨fun position text => ?_, fun position => ?_, fun position code => ?_,
    fun position => ?_, ?_, ?_, ?_, ?_, ?_⟩
  · show (SortedMap.ofList _).get? position = _ ↔ _
    simp only [get?_positioned, scalarText?_eq_some_iff]
  · show ((SortedMap.ofList _).get? position).isSome = true ↔ _
    simp only [isSome_get?_positioned, scalarText?_eq_some_iff]
  · show (SortedMap.ofList _).get? position = _ ↔ _
    simp only [get?_positioned, Option.some.injEq, exists_eq', ← integerOf_eq_iff]
  · show ((SortedMap.ofList _).get? position).isSome = true ↔ _
    simp only [isSome_get?_positioned, Option.some.injEq, exists_and_left, exists_eq', and_true]
  · refine ⟨_, readsInteger_integerOf wire.page, ?_⟩
    show ((integerOf wire.page).toNat : Int) = _
    omega
  · intro missing
    show pageSize defaultSize wire.size = _
    rw [missing]
    rfl
  · intro all
    show pageSize defaultSize wire.size = _
    rw [all]
    rfl
  · intro present limited
    refine ⟨_, _, readsInteger_integerOf wire.size, ?_, pageSize_of_ne present limited⟩
    omega
  · intro sort filter sortShuffled filterShuffled
    rw [ofList_of_perm sortShuffled, ofList_of_perm filterShuffled]

/-- Three keys that name one position. Null has no text, but it does count among the sort codes. -/
example :
    let sent : SortedMap String Json :=
      ⟨[(" 1", .string "3"), ("+1", .number (.integer 7)), ("1", .null), ("x", .boolean true)],
        by decide⟩
    let request := toRequest { sort := sent, filter := sent } 10
    request.filter.entries = [(1, "7")] ∧ request.sort.entries = [(1, 0)] := by
  decide

end GridQuery.Grid.Wire
