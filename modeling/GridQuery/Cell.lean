import GridQuery.Grid.Plan
import GridQuery.Json.Value
import GridQuery.SortedMap
import GridQuery.Text.Utf8

/-! The cells of an SQLite table, and what becomes of them as values, counts and JSON rows. -/
namespace GridQuery

open Sql Grid

/-- A stored cell by its storage class. Texts need not be valid. -/
inductive Cell where
  | null
  | integer (n : Int)
  | real (x : Decimal.Binary64)
  | text (bytes : List UInt8)
  | blob (bytes : List UInt8)
  deriving DecidableEq, Repr

namespace Cell

/-- Doubles as texts always have their digits in place, without an exponent or a needless point, and
halves go up. -/
def realLayout : Decimal.Layout := ⟨fun _ => true, false, .up⟩

/-- The cell that holds a double; what is no number is stored as null. -/
def ofDouble : Decimal.Binary64 → Cell
  | .nan => null
  | x => real x

def ofValue : Value → Cell
  | .null => null
  | .integer n => integer n
  | .text content => text (Text.Utf8.encode content)

/-- The value that a cell is read as; there is no value for doubles and bytes, which become
texts. -/
def toValue : Cell → Value
  | null => .null
  | integer n => .integer n
  | real x => .text (realLayout.text x)
  | text bytes | blob bytes => .text (Text.Utf8.decodeLossy bytes)

def toJson : Cell → Json
  | null => .null
  | integer n => .integer n
  | real x => .ofDouble x
  | text bytes | blob bytes => .string (Text.Utf8.decodeLossy bytes)

/-- The count in a cell, negative ones read as zero; other cells than integers hold none. -/
def count? : Cell → Option Nat
  | integer n => some n.toNat
  | _ => none

/-- The answer to an ungrouped count, which is in the first row. -/
def scalarCount? (rows : List Cell) : Option CountResult :=
  (rows.head?.bind count?).map .scalar

/-- The answer to a grouped count, a row with key and count for each group. -/
def groupedCount? (rows : List (Cell × Cell)) : Option CountResult :=
  (rows.mapM fun (row : Cell × Cell) => row.2.count?.map (row.1.toValue, ·)).map .grouped

/-- A row as an object by column name; of columns with one name the last counts. -/
def rowJson (names : List String) (row : List Cell) : Json :=
  .object (SortedMap.ofList (names.zip (row.map toJson))).entries

end Cell

end GridQuery
