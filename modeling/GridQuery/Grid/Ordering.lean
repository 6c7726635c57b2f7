import GridQuery.Grid.Registry
import GridQuery.Grid.Request

/-! Ordering a query by sort codes: even codes ascend and odd codes descend. -/
namespace GridQuery.Grid

open Sql

def directionOfCode (code : Int) : Direction := if code % 2 = 0 then .asc else .desc

/-- The order terms of a column. -/
def Column.orderTerms (column : Column) (direction : Direction) : List OrderTerm :=
  match column.sorter with
  | some sorter => sorter direction
  | none =>
    match column.kind with
    -- Only here the place of nulls is left to the dialect.
    | .external relation name => [⟨.ofTable relation name, direction, none⟩]
    | .aggregate _ => [⟨.column none column.name, direction, some .last⟩]
    | .direct | .mapped _ | .custom _ =>
      [⟨.ofTable column.owner column.name, direction, some .last⟩]

/-- The order terms of a sort code, if its position is that of a column. -/
def Registry.orderTermsAt (registry : Registry) (position : Nat) (code : Int) :
    Option (List OrderTerm) :=
  (registry.lookup position).map (·.orderTerms (directionOfCode code))

/-- Replaces the order by the terms of the sort codes, in the order of the positions. -/
def Registry.order (registry : Registry) (query : Query) (sort : SortMap) : Query :=
  let termsOf (position : Nat) (code : Int) := (registry.orderTermsAt position code).getD []
  match sort.entries.flatMap fun (position, code) => termsOf position code with
  -- Without a term the query keeps the order that it came with.
  | [] => query
  | terms => { query with orderBy := terms }

end GridQuery.Grid
