import GridQuery.Grid.Plan
import GridQuery.Grid.Request

/-! Counting rows and cutting out a page of them. -/
namespace GridQuery.Grid

open Sql

/-- The numbers of rows before and after filtering. -/
structure RowCounts where
  total : Nat
  filtered : Nat
  deriving DecidableEq, Repr

/-- The query that counts the different ids of another, for each of its groups. -/
def countQuery (query : Query) (id : Expr) : Query :=
  query.reselect (query.groupBy.map (⟨·, none⟩) ++ [⟨.countDistinct id, none⟩])

/-- Of the rows that a query shows, group by group, another one counts the different ids. Order and
window of the shown rows play no part in it. -/
structure CountsIds (query : Query) (id : Expr) (counting : Query) : Prop where
  items : counting.items = query.groupBy.map (⟨·, none⟩) ++ [⟨.countDistinct id, none⟩]
  distinct : counting.distinct = false
  source : counting.source = query.source
  joins : counting.joins = query.joins
  rowCondition : counting.rowCondition = query.rowCondition
  groupBy : counting.groupBy = query.groupBy
  groupCondition : counting.groupCondition = query.groupCondition
  orderBy : counting.orderBy = []
  limit : counting.limit = none
  offset : counting.offset = none

theorem countsIds_countQuery (query : Query) (id : Expr) :
    CountsIds query id (countQuery query id) := by
  constructor <;> rfl

/-- No other query counts them. -/
theorem CountsIds.eq_countQuery {query counting : Query} {id : Expr}
    (counts : CountsIds query id counting) : counting = countQuery query id := by
  cases counting
  obtain ⟨rfl, rfl, rfl, rfl, rfl, rfl, rfl, rfl, rfl, rfl⟩ := counts
  rfl

/-- Asks for the number of rows of a query. -/
def countRows (query : Query) (id : Expr) : Plan Nat := do
  return (← Plan.askCount (countQuery query id)).rows

/-- Asks for the numbers of rows of a query and of the same query filtered; without a filter the
first serves for both. -/
def countBoth (base filtered : Query) (hasFilters : Bool) (id : Expr) : Plan RowCounts := do
  let total ← countRows base id
  if hasFilters then return ⟨total, ← countRows filtered id⟩ else return ⟨total, total⟩

/-- Cuts out a page. -/
def paginate (query : Query) (page : Nat) (size : PageSize) (total : Nat) : Query :=
  match size with
  | .all => query
  | .rows count =>
    -- One page holds all rows, whichever page is asked for.
    if total ≤ count then query
    -- Offsets end at the signed range, behind which there is no row.
    else { query with
      limit := some count
      offset := some (min (saturatingProduct count page) maxSigned) }

end GridQuery.Grid
