import GridQuery.Sql.Query
import GridQuery.Text.Unshown

/-! Columns of a grid: how each is filtered and sorted, and what it is registered with. -/
namespace GridQuery.Grid

open Sql

/-- The clause that a condition belongs to: that on rows or that on groups. -/
inductive Clause where
  | rows
  | groups
  deriving DecidableEq, Repr

/-- What a filter text comes to: a condition and its clause. -/
structure Predicate where
  clause : Clause
  condition : Expr
  deriving Repr

/-- How a column is filtered and sorted. -/
inductive ColumnKind where
  /-- A column of the owning table. -/
  | direct
  /-- A column of a joined table. -/
  | external (relation column : String)
  /-- An aggregate, filtered by conditions on groups. Its text is trusted. -/
  | aggregate (expression : String)
  /-- A column that is one of the values that a filter text stands for. -/
  | mapped (values : String → List String)
  /-- A column with a predicate of its own. -/
  | custom (predicate : String → Option Predicate)

/-- A character as it stands in a described text; what cannot be shown stands as its code point. -/
def describeChar (c : Char) : List Char :=
  match c with
  | '"' => ['\\', '"']
  | '\\' => ['\\', '\\']
  | '\n' => ['\\', 'n']
  | '\r' => ['\\', 'r']
  | '\t' => ['\\', 't']
  | '\x00' => ['\\', '0']
  | c =>
    if Text.isUnshown c then ['\\', 'u', '{'] ++ Nat.toDigits 16 c.toNat ++ ['}']
    else [c]

/-- A text in quotes for a description. -/
def describeText (text : String) : String :=
  String.ofList ('"' :: text.toList.flatMap describeChar ++ ['"'])

namespace ColumnKind

def label : ColumnKind → String
  | direct => "direct"
  | external _ _ => "external"
  | aggregate _ => "having"
  | mapped _ => "value_mapped"
  | custom _ => "custom"

/-- The kind with its texts, for a listing. -/
def describe : ColumnKind → String
  | direct => "Direct"
  | external relation column =>
    "External \x7b relation: " ++ describeText relation ++
      ", column: " ++ describeText column ++ " \x7d"
  | aggregate expression => "Having \x7b clause: " ++ describeText expression ++ " \x7d"
  | mapped _ => "ValueMapped"
  | custom _ => "Custom"

end ColumnKind

/-- The type of a column's values, as far as comparing them as texts depends on it. -/
inductive ColumnType where
  | text
  /-- A filter text that is no number matches nothing. -/
  | integer
  /-- Truncated to the unit before it is compared. -/
  | timestamp (unit : TimeUnit)
  deriving DecidableEq, Repr

/-- The order terms of a column with an order of its own. -/
abbrev Sorter := Direction → List OrderTerm

structure ColumnOptions where
  kind : ColumnKind
  /-- The table the column stands in, the primary one if none is named. -/
  owner : Option String := none
  type : ColumnType := .text
  /-- Whether its filter text searches all columns. -/
  isGlobal : Bool := false
  /-- Whether it is never filtered. -/
  isNoop : Bool := false
  sorter : Option Sorter := none

structure Column where
  position : Nat
  name : String
  owner : String
  kind : ColumnKind
  type : ColumnType
  isGlobal : Bool
  isNoop : Bool
  sorter : Option Sorter

end GridQuery.Grid
