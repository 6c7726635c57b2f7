import GridQuery.Proofs.Grid.Narrowing
import GridQuery.Proofs.SortedMap

/-! Which filter texts are looked at: those that are not blank, at the position of the global column
or of a column that is ever filtered. Filters that agree there narrow a query alike, whatever they
hold elsewhere. -/
namespace GridQuery.Grid

open Sql

/-- The filter text at a position, unless it is blank. -/
def slot (filters : FilterMap) (position : Nat) : Option String :=
  (filters.get? position).filter (!Text.isBlank ·)

theorem slot_eq_none_of_blank {filters : FilterMap}
    (blank : ∀ text ∈ filters.values, Text.isBlank text = true) (position : Nat) :
    slot filters position = none := by
  rw [slot, Option.filter_eq_none_iff]
  intro text found
  have member : text ∈ filters.values :=
    List.mem_map_of_mem (SortedMap.get?_eq_some_iff.mp found)
  simp [blank text member]

namespace Registry

/-- Whether the filter text at a position is looked at. -/
def Heeds (registry : Registry) (position : Nat) : Prop :=
  (∃ global, registry.global? = some global ∧ global.position = position) ∨
    ∃ column, registry.lookup position = some column ∧ column.isNoop = false

/-- Filters that hold the same wherever they are looked at, a blank text being none. -/
def FiltersAgree (registry : Registry) (first second : FilterMap) : Prop :=
  ∀ position, registry.Heeds position → slot first position = slot second position

/-- The text of the global search. -/
def searchedText (registry : Registry) (filters : FilterMap) : Option String :=
  registry.global?.bind fun global => slot filters global.position

variable {registry : Registry} {first second : FilterMap}

theorem searchedText_eq (agree : registry.FiltersAgree first second) :
    registry.searchedText first = registry.searchedText second := by
  rw [searchedText, searchedText]
  cases found : registry.global? with
  | none => rfl
  | some global =>
    have heeds : registry.Heeds global.position := .inl ⟨global, found, rfl⟩
    exact agree global.position heeds

theorem searchAt_eq_none_of_blank {text : String} (blank : Text.isBlank text = true)
    (position : Nat) : registry.searchAt position text = none := by
  unfold searchAt Column.search
  cases registry.lookup position with
  | none => rfl
  | some column => simp [blank]

theorem searchAt_eq_none_of_not_heeds {position : Nat} (ignored : ¬ registry.Heeds position)
    (text : String) : registry.searchAt position text = none := by
  unfold searchAt
  cases stands : registry.lookup position with
  | none => rfl
  | some column =>
    cases noop : column.isNoop with
    | true => simp [noop]
    | false => exact absurd (.inr ⟨column, stands, noop⟩) ignored

theorem bind_searchAt (filters : FilterMap) (position : Nat) :
    (filters.get? position).bind (registry.searchAt position) =
      (slot filters position).bind (registry.searchAt position) := by
  rw [slot]
  cases filters.get? position with
  | none => rfl
  | some text =>
    cases blank : Text.isBlank text with
    | true => simp [Option.filter_some, blank, searchAt_eq_none_of_blank blank]
    | false => simp [Option.filter_some, blank]

theorem ownPredicates_remaining_eq (agree : registry.FiltersAgree first second) :
    registry.ownPredicates (registry.remaining first) =
      registry.ownPredicates (registry.remaining second) := by
  have same (filters filters' : FilterMap)
      (slots : ∀ position, registry.Heeds position → (filters.get? position).bind
        (registry.searchAt position) = (filters'.get? position).bind (registry.searchAt position)) :
      registry.ownPredicates filters = registry.ownPredicates filters' := by
    refine SortedMap.filterMap_entries_eq registry.searchAt fun position => ?_
    by_cases heeds : registry.Heeds position
    · exact slots position heeds
    · have none : registry.searchAt position = fun _ => none :=
        funext (searchAt_eq_none_of_not_heeds heeds)
      simp [none]
  apply same
  intro position heeds
  rw [remaining, remaining]
  cases registry.global? with
  | none => simp only [Option.elim_none, bind_searchAt, agree position heeds]
  | some global =>
    -- What the global column holds has been taken out of both.
    by_cases here : position = global.position
    · simp [here, SortedMap.get?_erase_self]
    · simp only [Option.elim_some, SortedMap.get?_erase_of_ne _ here, bind_searchAt,
        agree position heeds]

theorem filtersAgree_empty_of_blank {filters : FilterMap}
    (blank : ∀ text ∈ filters.values, Text.isBlank text = true) :
    registry.FiltersAgree filters .empty := by
  intro position _
  rw [slot_eq_none_of_blank blank]
  rfl

theorem searchedText_of_blank {filters : FilterMap}
    (blank : ∀ text ∈ filters.values, Text.isBlank text = true) :
    registry.searchedText filters = none := by
  rw [searchedText_eq (filtersAgree_empty_of_blank blank), searchedText]
  cases registry.global? <;> rfl

theorem ownPredicates_remaining_of_blank {filters : FilterMap}
    (blank : ∀ text ∈ filters.values, Text.isBlank text = true) :
    registry.ownPredicates (registry.remaining filters) = [] := by
  rw [ownPredicates_remaining_eq (filtersAgree_empty_of_blank blank), remaining]
  cases registry.global? <;> rfl

theorem globalPredicates_eq (filters : FilterMap) :
    registry.globalPredicates filters =
      (registry.searchedText filters).elim [] fun text =>
        registry.columns.filterMap (·.filter? text) := by
  unfold globalPredicates searchedText slot
  cases registry.global? with
  | none => rfl
  | some global =>
    simp only [Option.bind_some]
    cases filters.get? global.position with
    | none => rfl
    | some text => cases blank : Text.isBlank text <;> simp [Option.filter_some, blank]

/-- Narrowing by the text of the global column is a global search for it, if it is not blank. -/
theorem narrowGlobally_eq (registry : Registry) (base : Query) (filters : FilterMap) :
    registry.narrowGlobally base filters =
      (registry.searchedText filters).elim (pure (base, registry.remaining filters)) fun text =>
        registry.globalCondition base text >>= fun condition =>
          pure (condition.elim base base.filter, registry.remaining filters) := by
  unfold narrowGlobally searchedText remaining slot
  cases registry.global? with
  | none => rfl
  | some global =>
    simp only [Option.bind_some, Option.elim_some]
    cases filters.get? global.position with
    | none => rfl
    | some text => cases blank : Text.isBlank text <;> simp [Option.filter_some, blank]

end Registry

end GridQuery.Grid
