import GridQuery.Decimal.Reading
import GridQuery.Grid.Column
import GridQuery.Text.Blank

/-! The predicate of one column for one filter text. The text itself goes nowhere but into bound
values. -/
namespace GridQuery.Grid

open Sql

/-- A condition that no row meets. -/
def never : Expr := .eq (.literal (.integer 0)) (.literal (.integer 1))

def lowerText (expr : Expr) : Expr := .lower (.asText expr)

/-- The pattern of the texts that hold a filter text. -/
def containing (text : String) : Expr := .text ("%" ++ text ++ "%")

namespace Column

/-- The column of the owning table, a time truncated to its unit. -/
def target (column : Column) : Expr :=
  let expr := Expr.ofTable column.owner column.name
  match column.type with
  | .timestamp unit => .truncate unit expr
  | .text | .integer => expr

/-- Whether the column holds integers and the text, white space around it apart, is none. -/
def mismatches (column : Column) (text : String) : Bool :=
  column.type = .integer && !(Text.trim text).toList.all Decimal.isDigit

/-- The predicate of a filter text; a blank one has none. -/
def search (column : Column) (text : String) : Option Predicate :=
  if Text.isBlank text then none
  else
    match column.kind with
    | .custom predicate => predicate text
    | .external relation name =>
      some ⟨.rows, if column.mismatches text then never
        else (lowerText (.ofTable relation name)).like (.lower (containing text))⟩
    | .aggregate expression =>
      some ⟨.groups, if column.mismatches text then never
        else (lowerText (.group (.verbatim expression))).like (containing text)⟩
    | .mapped values =>
      some ⟨.rows, if column.mismatches text then never
        else .isIn (lowerText column.target) ((values text).map .text)⟩
    | .direct =>
      some ⟨.rows, if column.mismatches text then never
        else (lowerText column.target).like (.lower (containing text))⟩

end Column

end GridQuery.Grid
