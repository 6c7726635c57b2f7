import GridQuery.Proofs.Grid.Unheeded
import Mathlib.Algebra.Group.Int.Even

/-! Ordering by sort codes against the order that a query came with. The terms of the columns that
are sorted by, one column after the other, take its place; only where these columns have no terms at
all does it stay. -/
namespace GridQuery.Grid

open Sql

theorem directionOfCode_eq (code : Int) :
    directionOfCode code = if Even code then .asc else .desc := by
  simp only [directionOfCode, Int.even_iff]

theorem Column.orderTerms_ne_nil {column : Column} {direction : Direction}
    (yields : ∀ sorter ∈ column.sorter, sorter direction ≠ []) :
    column.orderTerms direction ≠ [] := by
  rw [orderTerms]
  cases own : column.sorter with
  | none => cases column.kind <;> exact List.cons_ne_nil _ _
  | some sorter => exact yields sorter own

namespace Registry

/-- The columns that a sort map asks for, each with its position and its code, in the order of their
positions. -/
structure Resolves (registry : Registry) (sort : SortMap) (steps : List (Nat × Column × Int)) :
    Prop where
  ascending : steps.Pairwise fun first second => first.1 < second.1
  mem_iff : ∀ position column code, (position, column, code) ∈ steps ↔
    registry.lookup position = some column ∧ sort.get? position = some code

/-- The columns that a sort map asks for. -/
def steps (registry : Registry) (sort : SortMap) : List (Nat × Column × Int) :=
  sort.readings fun position code => (registry.lookup position).map (·, code)

variable (registry : Registry)

theorem resolves_steps (sort : SortMap) : registry.Resolves sort (registry.steps sort) := by
  refine ⟨sort.ascending_readings _, fun position column code => ?_⟩
  rw [steps, SortedMap.mem_readings]
  simp only [Option.bind_eq_some_iff, Option.map_eq_some_iff, Prod.mk.injEq]
  constructor
  · rintro ⟨_, sent, _, stands, rfl, rfl⟩
    exact ⟨stands, sent⟩
  · rintro ⟨stands, sent⟩
    exact ⟨code, sent, column, stands, rfl, rfl⟩

theorem order_eq_steps (query : Query) (sort : SortMap) :
    let terms := (registry.steps sort).flatMap fun step =>
      step.2.1.orderTerms (directionOfCode step.2.2)
    registry.order query sort =
      { query with orderBy := if terms = [] then query.orderBy else terms } := by
  intro terms
  have same : (sort.entries.filterMap fun entry =>
      registry.orderTermsAt entry.1 entry.2).flatten = terms := by
    simp only [terms, steps, SortedMap.readings, List.flatMap_def, List.map_filterMap,
      Option.map_map]
    rfl
  rw [order_eq_flatten, same]
  split <;> rfl

/-- The order of a query is replaced by the terms of the columns that the sort map asks for, one
column after the other by their positions, descending where the code is odd. It stays where there
are no such terms: if no position of the map is that of a column, or if all these columns have
orders of their own that come to nothing. So where every order of a column's own comes to some
terms, one column is enough to replace the order; and all but the order is left as it is. -/
theorem order_by_position (query : Query) (sort : SortMap) :
    ∃ steps, registry.Resolves sort steps ∧
      let terms := steps.flatMap fun step =>
        step.2.1.orderTerms (if Even step.2.2 then .asc else .desc)
      let ordered := registry.order query sort
      ordered = { query with orderBy := ordered.orderBy } ∧
      (steps = [] → ordered = query) ∧
      (ordered.orderBy = if terms = [] then query.orderBy else terms) ∧
      (ordered.orderBy = terms ↔ (terms = [] → query.orderBy = [])) ∧
      ((∀ column ∈ registry.columns, ∀ sorter ∈ column.sorter, ∀ direction,
        sorter direction ≠ []) → steps ≠ [] → ordered.orderBy = terms) := by
  have resolves := registry.resolves_steps sort
  refine ⟨registry.steps sort, resolves, ?_⟩
  intro terms ordered
  have replaced : ordered =
      { query with orderBy := if terms = [] then query.orderBy else terms } := by
    simpa only [directionOfCode_eq] using registry.order_eq_steps query sort
  have orderBy : ordered.orderBy = if terms = [] then query.orderBy else terms :=
    congrArg Query.orderBy replaced
  refine ⟨by rw [replaced], ?_, orderBy, ?_, ?_⟩
  · intro none
    have nothing : terms = [] := by simp [terms, none]
    rw [replaced, if_pos nothing]
  · rw [orderBy]
    split
    next nothing => simp [nothing]
    next something => simp [something]
  · intro yields some
    obtain ⟨⟨position, column, code⟩, member⟩ := List.exists_mem_of_ne_nil _ some
    have stands := ((resolves.mem_iff position column code).mp member).1
    have something : terms ≠ [] := by
      intro nothing
      have none := List.flatMap_eq_nil_iff.mp nothing (position, column, code) member
      refine Column.orderTerms_ne_nil (fun sorter own => ?_) none
      exact yields column (List.mem_of_getElem? stands) sorter own _
    rw [orderBy, if_neg something]

end Registry

/-- A column with an order of its own that comes to nothing leaves the order by ids in place. -/
theorem order_left_in_place :
    let column : Column :=
      ⟨0, "name", "users", .direct, .text, false, false, some fun _ => []⟩
    let registry : Registry := { primaryTable := "users", columns := [column] }
    let query : Query :=
      { Query.everything "users" with orderBy := [⟨.column none "id", some .asc, none⟩] }
    let sort : SortMap := SortedMap.empty.insert 0 1
    registry.lookup 0 = some column ∧ sort.get? 0 = some 1 ∧
      column.orderTerms (directionOfCode 1) = [] ∧
      (registry.order query sort).orderBy ≠ column.orderTerms (directionOfCode 1) := by
  intro column registry query sort
  exact ⟨rfl, rfl, rfl, nofun⟩

end GridQuery.Grid
