import GridQuery.Grid.Column
import GridQuery.Text.Blank

/-! The registry: the columns of a grid in display order. The position of a column is the id that
requests use for it. -/
namespace GridQuery.Grid

/-- Why a column is not registered. -/
inductive RegistryError where
  | emptyName (position : Nat)
  | duplicateGlobal (existing attempted : String)
  deriving DecidableEq, Repr

def RegistryError.message : RegistryError → String
  | emptyName position => "column name must not be empty (position " ++ toString position ++ ")"
  | duplicateGlobal existing attempted =>
    "column '" ++ attempted ++ "' cannot be the global filter: '" ++ existing ++ "' already is"

/-- The primary table with its key, and the columns by position. -/
structure Registry where
  primaryTable : String
  primaryKey : String := "id"
  columns : List Column := []

namespace Registry

def lookup (registry : Registry) (position : Nat) : Option Column := registry.columns[position]?

/-- The column whose filter text searches all columns. -/
def global? (registry : Registry) : Option Column := registry.columns.find? (·.isGlobal)

/-- The id of a row of the primary table. -/
def idColumn (registry : Registry) : Sql.Expr := .ofTable registry.primaryTable registry.primaryKey

/-- The column that these options make next. -/
def nextColumn (registry : Registry) (name : String) (options : ColumnOptions) : Column :=
  { position := registry.columns.length
    name := name
    owner := options.owner.getD registry.primaryTable
    kind := options.kind
    type := options.type
    isGlobal := options.isGlobal
    isNoop := options.isNoop
    sorter := options.sorter }

/-- Adds a column at the next position. -/
def register (registry : Registry) (name : String) (options : ColumnOptions) :
    Except RegistryError Registry :=
  if Text.isBlank name then .error (.emptyName registry.columns.length)
  else
    -- One column at most is global; a second one is refused with the name of the first.
    match if options.isGlobal then registry.global? else none with
    | some existing => .error (.duplicateGlobal existing.name name)
    | none =>
      .ok { registry with columns := registry.columns ++ [registry.nextColumn name options] }

def setType (registry : Registry) (position : Nat) (type : ColumnType) : Registry :=
  { registry with columns := registry.columns.modify position ({ · with type := type }) }

def sortWith (registry : Registry) (position : Nat) (sorter : Sorter) : Registry :=
  { registry with columns := registry.columns.modify position ({ · with sorter := some sorter }) }

end Registry

end GridQuery.Grid
