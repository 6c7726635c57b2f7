import GridQuery.SortedMap
import GridQuery.Text.Blank

/-! Requests of a grid: the page, its size, the sort codes and the filter texts by column
position. -/
namespace GridQuery.Grid

inductive PageSize where
  | all
  | rows (count : Nat)
  deriving DecidableEq, Repr

/-- The sort codes by position. -/
abbrev SortMap := SortedMap Nat Int

/-- The filter texts by position. -/
abbrev FilterMap := SortedMap Nat String

/-- A request. Pages are counted from zero. -/
structure Request where
  page : Nat := 0
  size : PageSize
  sort : SortMap := .empty
  filter : FilterMap := .empty

/-- Whether any filter text is not blank. -/
def Request.hasFilters (request : Request) : Bool := request.filter.values.any (!Text.isBlank ·)

end GridQuery.Grid
