import GridQuery.Text.CaseMap

/-! The four dialects, their names, and how each writes names, literals and placeholders. -/
namespace GridQuery.Sql

/-- The dialect that a statement is written in. -/
inductive Dialect where
  | postgres
  | duckdb
  | mysql
  | sqlite
  deriving DecidableEq, Repr

/-- A dialect name that is not known, in lower case. -/
structure UnknownDialect where
  name : String

def UnknownDialect.message (unknown : UnknownDialect) : String :=
  "Unsupported dialect: " ++ unknown.name ++ ". Supported: postgres, duckdb, mysql, sqlite"

/-- Writes a text between quotes, each quote inside it twice. -/
def quoted (quote : Char) (text : String) : String :=
  let doubled := text.toList.flatMap fun c => if c = quote then [c, c] else [c]
  String.ofList (quote :: doubled ++ [quote])

namespace Dialect

def all : List Dialect := [postgres, duckdb, mysql, sqlite]

/-- The canonical name. -/
def name : Dialect → String
  | postgres => "postgres"
  | duckdb => "duckdb"
  | mysql => "mysql"
  | sqlite => "sqlite"

/-- The dialect of a canonical name, spelled exactly. -/
def ofName? (text : String) : Option Dialect := all.find? (·.name = text)

/-- The dialect of a name in any case, other common names included. -/
def ofString (text : String) : Except UnknownDialect Dialect :=
  match Text.lowercase text with
  | "postgres" | "postgresql" | "pg" => .ok postgres
  | "duckdb" | "duck" => .ok duckdb
  | "mysql" | "mariadb" => .ok mysql
  | "sqlite" | "sqlite3" => .ok sqlite
  | other => .error ⟨other⟩

/-- The quote around identifiers: a backtick in MySQL, a double quote elsewhere. -/
def identifierQuote : Dialect → Char
  | mysql => '\x60'
  | _ => '"'

/-- A table, column, alias or schema name. -/
def quoteName (dialect : Dialect) (name : String) : String := quoted dialect.identifierQuote name

def quoteString (text : String) : String := quoted '\'' text

/-- A truth value: a word where the dialect has booleans, else a number. -/
def boolean : Dialect → Bool → String
  | postgres, value | duckdb, value => if value then "true" else "false"
  | mysql, value | sqlite, value => if value then "1" else "0"

def nullLiteral : String := "NULL"

/-- The placeholder of the parameter with this number, counted from one. -/
def placeholder : Dialect → Nat → String
  | postgres, number => "$" ++ toString number
  | _, _ => "?"

/-- Whether an order term can say where nulls go. -/
def ordersNulls : Dialect → Bool
  | mysql => false
  | _ => true

end Dialect

end GridQuery.Sql
