import GridQuery.Grid.Definition
import GridQuery.Json.Record
import GridQuery.Toml.Document

/-! Table definitions read from TOML documents or JSON values. Members that a definition does not
know are refused. -/
namespace GridQuery.Grid

open Json (Leniency)

def joinKinds : List (String × Sql.JoinKind) := [("left", .left), ("inner", .inner)]

def typeNames : List (String × TypeName) :=
  [("text", .text), ("integer", .integer), ("timestamp", .timestamp)]

def timeUnits : List (String × Sql.TimeUnit) := [("second", .second), ("minute", .minute)]

def JoinDefinition.ofJson? (leniency : Leniency) (json : Json) : Option JoinDefinition := do
  let fields ← json.fields? leniency true ["table", "type", "column", "references"]
  return {
    table := ← fields.required "table" Json.text?
    kind := ← fields.withDefault "type" .left (Json.choice? leniency joinKinds)
    column := ← fields.withDefault "column" "id" Json.text?
    references := ← fields.required "references" Json.text? }

def ColumnDefinition.ofJson? (leniency : Leniency) (json : Json) : Option ColumnDefinition := do
  let fields ← json.fields? leniency true
    ["name", "table", "relation", "column", "having", "values", "type", "precision", "global",
     "noop"]
  return {
    name := ← fields.required "name" Json.text?
    table := ← fields.optional "table" Json.text?
    relation := ← fields.optional "relation" Json.text?
    column := ← fields.optional "column" Json.text?
    having := ← fields.optional "having" Json.text?
    values := ← fields.optional "values" fun values =>
      (values.entries? (Json.list? Json.text?)).map SortedMap.ofList
    type := ← fields.optional "type" (Json.choice? leniency typeNames)
    precision := ← fields.optional "precision" (Json.choice? leniency timeUnits)
    isGlobal := ← fields.withDefault "global" false Json.boolean?
    isNoop := ← fields.withDefault "noop" false Json.boolean? }

def TableDefinition.ofJson? (leniency : Leniency) (json : Json) : Option TableDefinition := do
  let fields ← json.fields? leniency true ["table", "primary_key", "joins", "columns"]
  return {
    table := ← fields.required "table" Json.text?
    primaryKey := ← fields.optional "primary_key" Json.text?
    joins := ← fields.withDefault "joins" [] (Json.list? (JoinDefinition.ofJson? leniency))
    columns := ← fields.withDefault "columns" [] (Json.list? (ColumnDefinition.ofJson? leniency)) }

/-- The definition of a TOML document. -/
def TableDefinition.ofToml? (text : String) : Option TableDefinition := do
  TableDefinition.ofJson? Json.leniently (← Toml.read? text)

end GridQuery.Grid
