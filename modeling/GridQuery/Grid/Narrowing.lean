import GridQuery.Grid.Plan
import GridQuery.Grid.Registry
import GridQuery.Grid.Request
import GridQuery.Grid.Search

/-! Narrowing a query by filter texts. The text of the global column searches all columns at once
and becomes one condition on rows; a condition on groups cannot stand in it, so the ids of the
matching groups are asked for and stand there instead. Every other text narrows by its own
column. -/
namespace GridQuery.Grid

open Sql

/-- Adds a predicate to the clause it belongs to. -/
def Predicate.narrow (predicate : Predicate) (query : Query) : Query :=
  match predicate.clause with
  | .rows => query.filter predicate.condition
  | .groups => query.having predicate.condition

namespace Registry

/-- Membership in the ids of the groups that meet a condition. -/
def matchingIds (registry : Registry) (base : Query) (condition : Expr) : Plan Expr := do
  let ids ← Plan.askIds ((base.reselect [⟨registry.idColumn, none⟩]).having condition)
  return .isIn registry.idColumn (ids.map .param)

/-- The term of one column in a global search. -/
def globalTerm (registry : Registry) (base : Query) (predicate : Predicate) : Plan Expr :=
  match predicate.clause with
  | .rows => return predicate.condition
  | .groups => registry.matchingIds base predicate.condition

/-- The terms of a global search over some columns; columns that are never filtered have none. -/
def globalTerms (registry : Registry) (base : Query) (text : String) :
    List Column → Plan (List Expr)
  | [] => return []
  | column :: rest => do
    match if column.isNoop then none else column.search text with
    | none => registry.globalTerms base text rest
    | some predicate =>
      let term ← registry.globalTerm base predicate
      return term :: (← registry.globalTerms base text rest)

/-- The condition of a global search, if any column has a term. -/
def globalCondition (registry : Registry) (base : Query) (text : String) : Plan (Option Expr) := do
  return Expr.any (← registry.globalTerms base text registry.columns)

/-- Narrows by the text of the global column, and takes it out of the filters. -/
def narrowGlobally (registry : Registry) (query : Query) (filters : FilterMap) :
    Plan (Query × FilterMap) := do
  match registry.global? with
  | none => return (query, filters)
  | some global =>
    -- The text is taken out even if it is blank, so that it never narrows by its own column.
    let rest := filters.erase global.position
    match filters.get? global.position with
    | none => return (query, rest)
    | some text =>
      if Text.isBlank text then return (query, rest)
      else return ((← registry.globalCondition query text).elim query query.filter, rest)

/-- The predicate of the filter text at a position. -/
def searchAt (registry : Registry) (position : Nat) (text : String) : Option Predicate :=
  (registry.lookup position).bind fun column => if column.isNoop then none else column.search text

/-- Narrows by each filter text, in the order of the positions. -/
def narrowByColumn (registry : Registry) (query : Query) (filters : FilterMap) : Query :=
  filters.entries.foldl (fun query (position, text) =>
    (registry.searchAt position text).elim query (·.narrow query)) query

/-- Narrows by all filter texts; also the filters without that of the global column. -/
def narrow (registry : Registry) (query : Query) (filters : FilterMap) :
    Plan (Query × FilterMap) := do
  let (query, rest) ← registry.narrowGlobally query filters
  return (registry.narrowByColumn query rest, rest)

end Registry

end GridQuery.Grid
