import GridQuery.Grid.Registry
import GridQuery.SortedMap

/-! Table definitions: the primary table, the joins that columns need, and the columns in display
order. A definition gives both the registry and the base query that the registry's columns refer
to. -/
namespace GridQuery.Grid

open Sql

/-- A joined table, and the columns that the join equates. -/
structure JoinDefinition where
  table : String
  kind : JoinKind := .left
  column : String := "id"
  references : String
  deriving DecidableEq, Repr

inductive TypeName where
  | text
  | integer
  | timestamp
  deriving DecidableEq, Repr

structure ColumnDefinition where
  name : String
  table : Option String := none
  relation : Option String := none
  column : Option String := none
  having : Option String := none
  /-- The values that a filter text in lower case stands for. -/
  values : Option (SortedMap String (List String)) := none
  type : Option TypeName := none
  precision : Option TimeUnit := none
  isGlobal : Bool := false
  isNoop : Bool := false
  deriving DecidableEq

structure TableDefinition where
  table : String
  primaryKey : Option String := none
  joins : List JoinDefinition := []
  columns : List ColumnDefinition := []
  deriving DecidableEq

/-- Why a definition gives no registry. -/
inductive DefinitionError where
  | missingRelationColumn (name : String)
  | registry (error : RegistryError)
  deriving DecidableEq, Repr

def DefinitionError.message : DefinitionError → String
  | missingRelationColumn name => "column '" ++ name ++ "' has a relation but no column"
  | registry error => error.message

/-- The values that a filter text stands for: those listed under it, white space around it and case
apart, else the text itself in that form. -/
def mappedValues (values : SortedMap String (List String)) (text : String) : List String :=
  let key := Text.lowercase (Text.trim text)
  (values.get? key).getD [key]

namespace ColumnDefinition

/-- The kind is that of the first of relation, aggregate and values that is there. -/
def kind (column : ColumnDefinition) : Except DefinitionError ColumnKind :=
  match column.relation, column.having, column.values with
  | some relation, _, _ =>
    match column.column with
    | some name => .ok (.external relation name)
    | none => .error (.missingRelationColumn column.name)
  | none, some expression, _ => .ok (.aggregate expression)
  | none, none, some values => .ok (.mapped (mappedValues values))
  | none, none, none => .ok .direct

/-- The type; a precision alone stands for a timestamp. -/
def resolvedType (column : ColumnDefinition) : ColumnType :=
  match column.type, column.precision with
  | some .integer, _ => .integer
  | some .text, _ => .text
  | some .timestamp, precision => .timestamp (precision.getD .second)
  | none, some unit => .timestamp unit
  | none, none => .text

def options (column : ColumnDefinition) : Except DefinitionError ColumnOptions := do
  return {
    kind := ← column.kind
    owner := column.table
    type := column.resolvedType
    isGlobal := column.isGlobal
    isNoop := column.isNoop }

/-- The select item of the column, if the primary table's own columns do not hold it. -/
def item? (column : ColumnDefinition) : Option SelectItem :=
  match column.relation, column.column, column.having with
  | some relation, some name, _ => some ⟨.ofTable relation name, column.name⟩
  | _, _, some expression => some ⟨.verbatim expression, column.name⟩
  | _, _, none => none

/-- Whether the column puts an aggregate into the select list. -/
def isAggregate (column : ColumnDefinition) : Bool :=
  !(column.relation.isSome && column.column.isSome) && column.having.isSome

def register (registry : Registry) (column : ColumnDefinition) :
    Except DefinitionError Registry := do
  let options ← column.options
  (registry.register column.name options).mapError .registry

end ColumnDefinition

namespace TableDefinition

/-- The primary key, which the definition may leave to the settings. -/
def resolvedKey (definition : TableDefinition) (defaultKey : String) : String :=
  definition.primaryKey.getD defaultKey

def registry (definition : TableDefinition) (defaultKey : String) :
    Except DefinitionError Registry :=
  definition.columns.foldlM ColumnDefinition.register
    { primaryTable := definition.table, primaryKey := definition.resolvedKey defaultKey }

def joinOf (definition : TableDefinition) (join : JoinDefinition) : Join :=
  { kind := join.kind
    table := .named join.table
    condition := .eq (.ofTable join.table join.column) (.ofTable definition.table join.references) }

/-- All columns of the primary table and, under their names, those of relations and the
aggregates. -/
def baseQuery (definition : TableDefinition) (defaultKey : String) : Query :=
  { items := ⟨.star (some definition.table), none⟩ :: definition.columns.filterMap (·.item?)
    source := some (.named definition.table)
    joins := definition.joins.map definition.joinOf
    -- Aggregates are taken over the rows that the joins give to each row of the primary table.
    groupBy :=
      if definition.columns.any (·.isAggregate) then
        [.ofTable definition.table (definition.resolvedKey defaultKey)]
      else [] }

end TableDefinition

end GridQuery.Grid
