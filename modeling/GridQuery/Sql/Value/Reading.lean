import GridQuery.Json.Reading
import GridQuery.Sql.Value

/-! Bound values read from JSON and written as JSON. -/
namespace GridQuery.Sql.Value

/-- The value of a JSON value: null, an integer of the signed range, or a text. -/
def ofJson? : Json → Option Value
  | .null => some null
  | .number (.integer n) => if fitsSigned n then some (integer n) else none
  | .string content => some (text content)
  | _ => none

def toJson : Value → Json
  | null => .null
  | integer n => .integer n
  | text content => .string content

/-- Reads a JSON text that holds a value. The shape is looked at before what follows the value. -/
def read (text : String) : Except Json.Fault Value := do
  let (json, rest) ← Json.readValue Json.maxDepth text.toList
  match ofJson? json with
  | none => .error .mismatched
  | some value => do
    Json.atEnd rest
    return value

end GridQuery.Sql.Value
