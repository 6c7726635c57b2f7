import GridQuery.Grid.Request.Wire
import GridQuery.Proofs.Decimal.Spelled
import GridQuery.Proofs.SortedMap

/-! Requests and the ways in which they may be sent. Whatever form is chosen for each number and
each text, and whatever order the positions come in as texts, the request that was meant is read. -/
namespace GridQuery.Grid

namespace Wire

/-- An integer as it may be sent: as a number or as its decimal text. -/
inductive WritesInteger : Json → Int → Prop where
  | number (n : Int) : WritesInteger (.number (.integer n)) n
  | text (n : Int) : WritesInteger (.string (toString n)) n

inductive WritesSize : Json → PageSize → Prop where
  | all : WritesSize (.string "all") .all
  | rows {json : Json} {count : Nat} : WritesInteger json count → WritesSize json (.rows count)

/-- A filter text as it may be sent: as it is, or as the integer of 64 bits that it spells. -/
inductive WritesText : Json → String → Prop where
  | string (text : String) : WritesText (.string text) text
  | number {n : Int} : minSigned ≤ n → n ≤ maxUnsigned →
    WritesText (.number (.integer n)) (toString n)

/-- A map as it may be sent: an entry for each position, under the decimal text of it. -/
structure WritesMap {α : Type} (writes : Json → α → Prop) (sent : SortedMap String Json)
    (map : SortedMap Nat α) : Prop where
  meant : ∀ {key json}, sent.get? key = some json →
    ∃ position value, key = toString position ∧ map.get? position = some value ∧ writes json value
  complete : ∀ {position value}, map.get? position = some value →
    (sent.get? (toString position)).isSome

/-- A request as it may be sent. -/
structure Writes (wire : Wire) (request : Request) : Prop where
  page : WritesInteger wire.page request.page
  size : WritesSize wire.size request.size
  sort : WritesMap WritesInteger wire.sort request.sort
  filter : WritesMap WritesText wire.filter request.filter

end Wire

/-- Requests whose numbers are in the ranges of a machine. -/
structure Request.InRange (request : Request) : Prop where
  page : request.page ≤ maxSigned
  size : ∀ count, request.size = .rows count → count ≤ maxSigned
  sortPosition : ∀ {position code}, request.sort.get? position = some code → position ≤ maxUnsigned
  code : ∀ {position code}, request.sort.get? position = some code →
    minSigned < code ∧ code ≤ maxSigned
  filterPosition : ∀ {position text}, request.filter.get? position = some text →
    position ≤ maxUnsigned

namespace Wire

theorem integerOf_of_writes {json : Json} {n : Int} (writes : WritesInteger json n)
    (least : minSigned < n) (greatest : n ≤ maxSigned) : integerOf json = n := by
  cases writes with
  | number =>
    have fits : fitsSigned n = true := by
      simp only [fitsSigned, Bool.and_eq_true, decide_eq_true_eq]
      omega
    exact clampSigned_eq_self fits
  | text =>
    rw [integerOf, Decimal.leadingInteger_toString]
    simp only [minSigned, maxSigned] at least greatest ⊢
    omega

theorem integerOf_of_writes_natCast {json : Json} {n : Nat} (writes : WritesInteger json n)
    (fits : n ≤ maxSigned) : (integerOf json).toNat = n := by
  have read : integerOf json = n := by
    refine integerOf_of_writes writes ?_ (by omega)
    simp only [minSigned]
    omega
  rw [read, Int.toNat_natCast]

theorem pageSize_of_writes {json : Json} {size : PageSize} (writes : WritesSize json size)
    (fits : ∀ count, size = .rows count → count ≤ maxSigned) (defaultSize : Nat) :
    pageSize defaultSize json = size := by
  cases writes with
  | all => rfl
  | @rows json count written =>
    have read := integerOf_of_writes_natCast written (fits count rfl)
    -- The word that stands for all rows is the text of no number.
    have number : json ≠ .string "all" := by
      rintro rfl
      generalize same : "all" = text at written
      cases written
      have digits : "all".toList = Nat.toDigits 10 count := by
        rw [same, Decimal.toList_toString_natCast]
      have member : 'a' ∈ Nat.toDigits 10 count := by
        rw [← digits]
        decide
      exact absurd (Decimal.isDigit_of_mem_toDigits member) (by decide)
    rw [pageSize.eq_def]
    split
    next => cases written
    next => exact absurd rfl number
    next => rw [read]

theorem scalarText?_of_writes {json : Json} {text : String} (writes : WritesText json text) :
    scalarText? json = some text := by
  cases writes <;> rfl

theorem position?_toString {position : Nat} (fits : position ≤ maxUnsigned) :
    position? (toString position) = some position :=
  Decimal.natural?_trim_repr fits

/-- Positions are read back from their texts, so that no two of them collide. -/
theorem ofList_positioned {α : Type} {writes : Json → α → Prop} {value? : Json → Option α}
    {sent : SortedMap String Json} {map : SortedMap Nat α} (written : WritesMap writes sent map)
    (fits : ∀ {position value}, map.get? position = some value → position ≤ maxUnsigned)
    (reads : ∀ {position value json}, map.get? position = some value → writes json value →
      value? json = some value) :
    SortedMap.ofList (sent.entries.filterMap (positioned? value?)) = map := by
  apply SortedMap.ofList_eq_of_mem_iff
  intro position value
  simp only [List.mem_filterMap, Prod.exists, ← SortedMap.get?_eq_some_iff]
  constructor
  · rintro ⟨key, json, stands, found⟩
    obtain ⟨meant, content, rfl, holds, writing⟩ := written.meant stands
    rw [positioned?, position?_toString (fits holds), reads holds writing] at found
    cases found
    exact holds
  · intro holds
    obtain ⟨json, stands⟩ := Option.isSome_iff_exists.mp (written.complete holds)
    obtain ⟨meant, content, same, holds', writing⟩ := written.meant stands
    have position_eq : position = meant := by
      have parsed := congrArg position? same
      rw [position?_toString (fits holds), position?_toString (fits holds')] at parsed
      exact Option.some.inj parsed
    subst position_eq
    cases holds.symm.trans holds'
    refine ⟨toString position, json, stands, ?_⟩
    rw [positioned?, position?_toString (fits holds), reads holds writing]
    rfl

/-- However a request is sent, it is read as it was meant, whatever the size that stands for a
missing one. -/
theorem toRequest_of_writes {wire : Wire} {request : Request} (writes : wire.Writes request)
    (inRange : request.InRange) (defaultSize : Nat) : wire.toRequest defaultSize = request := by
  obtain ⟨page, size, sort, filter⟩ := request
  have samePage := integerOf_of_writes_natCast writes.page inRange.page
  have sameSize := pageSize_of_writes writes.size inRange.size defaultSize
  have readsCode {position : Nat} {code : Int} {json : Json}
      (holds : sort.get? position = some code) (writing : WritesInteger json code) :
      some (integerOf json) = some code := by
    obtain ⟨least, greatest⟩ := inRange.code holds
    rw [integerOf_of_writes writing least greatest]
  have sameSort := ofList_positioned writes.sort inRange.sortPosition readsCode
  have sameFilter := ofList_positioned writes.filter inRange.filterPosition
    fun _ => scalarText?_of_writes
  rw [toRequest, samePage, sameSize, sameSort, sameFilter]

/-- Positions come as texts in another order than as numbers, and numbers and texts in both
forms. -/
theorem toRequest_of_writes_mixedForms :
    let request : Request :=
      { page := 4, size := .rows 25
        sort := ⟨[(2, 3), (10, -1)], by decide⟩
        filter := ⟨[(0, "-5"), (2, "007"), (11, "12")], by decide⟩ }
    let wire : Wire :=
      { page := .string "4", size := .number (.integer 25)
        sort := ⟨[("10", .string "-1"), ("2", .number (.integer 3))], by decide⟩
        filter := ⟨[("0", .number (.integer (-5))), ("11", .string "12"), ("2", .string "007")],
          by decide⟩ }
    request.InRange ∧ wire.Writes request ∧ wire.toRequest 10 = request := by
  intro request wire
  have sortEntries {position : Nat} {code : Int} (holds : request.sort.get? position = some code) :
      position = 2 ∧ code = 3 ∨ position = 10 ∧ code = -1 := by
    simpa [request] using SortedMap.get?_eq_some_iff.mp holds
  have filterEntries {position : Nat} {text : String}
      (holds : request.filter.get? position = some text) :
      position = 0 ∧ text = "-5" ∨ position = 2 ∧ text = "007" ∨ position = 11 ∧ text = "12" := by
    simpa [request] using SortedMap.get?_eq_some_iff.mp holds
  have inRange : request.InRange := by
    refine ⟨by decide, ?_, ?_, ?_, ?_⟩
    · intro count rows
      cases rows
      decide
    · intro position code holds
      rcases sortEntries holds with ⟨rfl, rfl⟩ | ⟨rfl, rfl⟩ <;> decide
    · intro position code holds
      rcases sortEntries holds with ⟨rfl, rfl⟩ | ⟨rfl, rfl⟩ <;> decide
    · intro position text holds
      rcases filterEntries holds with ⟨rfl, rfl⟩ | ⟨rfl, rfl⟩ | ⟨rfl, rfl⟩ <;> decide
  have sort : WritesMap WritesInteger wire.sort request.sort := by
    constructor
    · intro key json stands
      have entry : key = "10" ∧ json = .string "-1" ∨ key = "2" ∧ json = .number (.integer 3) := by
        simpa [wire] using SortedMap.get?_eq_some_iff.mp stands
      rcases entry with ⟨rfl, rfl⟩ | ⟨rfl, rfl⟩
      · have minusOne : toString (-1 : Int) = "-1" := by decide
        exact ⟨10, -1, rfl, rfl, minusOne ▸ .text (-1)⟩
      · exact ⟨2, 3, rfl, rfl, .number 3⟩
    · intro position code holds
      rcases sortEntries holds with ⟨rfl, rfl⟩ | ⟨rfl, rfl⟩ <;> rfl
  have filter : WritesMap WritesText wire.filter request.filter := by
    constructor
    · intro key json stands
      have entry : key = "0" ∧ json = .number (.integer (-5)) ∨ key = "11" ∧ json = .string "12" ∨
          key = "2" ∧ json = .string "007" := by
        simpa [wire] using SortedMap.get?_eq_some_iff.mp stands
      rcases entry with ⟨rfl, rfl⟩ | ⟨rfl, rfl⟩ | ⟨rfl, rfl⟩
      · exact ⟨0, "-5", rfl, rfl, .number (by decide) (by decide)⟩
      · exact ⟨11, "12", rfl, rfl, .string "12"⟩
      · exact ⟨2, "007", rfl, rfl, .string "007"⟩
    · intro position text holds
      rcases filterEntries holds with ⟨rfl, rfl⟩ | ⟨rfl, rfl⟩ | ⟨rfl, rfl⟩ <;> rfl
  have writes : wire.Writes request := ⟨.text 4, .rows (.number 25), sort, filter⟩
  exact ⟨inRange, writes, toRequest_of_writes writes inRange 10⟩

end Wire

end GridQuery.Grid
