import GridQuery.Grid.Narrowing
import GridQuery.Grid.Ordering
import GridQuery.Grid.Paging

/-! The answer to a request: the counts, and the query of the records, which is left to the caller
to run. -/
namespace GridQuery.Grid

open Sql

structure Answer where
  counts : RowCounts
  records : Query

/-- Answers a request: narrows the base query, counts, and orders and pages the narrowed query. -/
def Registry.answer (registry : Registry) (base : Query) (request : Request) : Plan Answer := do
  let (narrowed, _) ← registry.narrow base request.filter
  let counts ← countBoth base narrowed request.hasFilters registry.idColumn
  let ordered := registry.order narrowed request.sort
  return ⟨counts, paginate ordered request.page request.size counts.total⟩

end GridQuery.Grid
