import GridQuery.Bounds
import GridQuery.Sql.Token

/-! The phrases that the dialects build differently: casts to text, truncated times, and the window
of rows. -/
namespace GridQuery.Sql

/-- What a time is truncated to. -/
inductive TimeUnit where
  | second
  | minute
  deriving DecidableEq, Repr

def TimeUnit.name : TimeUnit → String
  | .second => "second"
  | .minute => "minute"

/-- The time format that leaves out what is below the unit, by the letters of SQLite. -/
def TimeUnit.sqliteFormat : TimeUnit → String
  | .second => "%Y-%m-%d %H:%M:%S"
  | .minute => "%Y-%m-%d %H:%M"

/-- The time format that leaves out what is below the unit, by the letters of MySQL. -/
def TimeUnit.mysqlFormat : TimeUnit → String
  | .second => "%Y-%m-%d %H:%i:%s"
  | .minute => "%Y-%m-%d %H:%i"

/-- A function applied to argument token lists. -/
def Token.call (function : String) (arguments : List (List Token)) : List Token :=
  [.function function, .mark .opening] ++ listed arguments ++ [.mark .closing]

/-- A row count; one above the signed range is written as its upper end. -/
def Token.rowCount (count : Nat) : Token := .integer (min count maxSigned)

namespace Dialect

/-- A cast behind its operand. -/
def postfixCast (inner : List Token) (type : String) : List Token :=
  inner ++ [.verbatim ("::" ++ type)]

/-- A cast around its operand. -/
def functionCast (inner : List Token) (type : String) : List Token :=
  [.function "CAST", .mark .opening] ++ inner ++
    [.mark .space, .keyword .as, .mark .space, .verbatim type, .mark .closing]

/-- An expression cast to the text type. -/
def asText : Dialect → List Token → List Token
  | postgres, inner | duckdb, inner => postfixCast inner "text"
  | mysql, inner => functionCast inner "CHAR"
  | sqlite, inner => functionCast inner "TEXT"

/-- A time truncated to a unit. -/
def truncate (dialect : Dialect) (unit : TimeUnit) (inner : List Token) : List Token :=
  match dialect with
  | postgres | duckdb => Token.call "date_trunc" [[.string unit.name], inner]
  | mysql => Token.call "date_format" [inner, [.string unit.mysqlFormat]]
  | sqlite => Token.call "strftime" [[.string unit.sqliteFormat], inner]

def limitPart (limit : Option Nat) : List Token :=
  limit.elim [] fun count => [.keyword .limit, .mark .space, Token.rowCount count]

def offsetPart (offset : Option Nat) : List Token :=
  offset.elim [] fun count => [.keyword .offset, .mark .space, Token.rowCount count]

/-- The window where either part may stand alone. -/
def standardWindow (limit offset : Option Nat) : List Token :=
  let gap : List Token := if limit.isSome && offset.isSome then [.mark .space] else []
  limitPart limit ++ gap ++ offsetPart offset

/-- The window where an offset needs a limit before it; `unbounded` is the limit that stands for
none. -/
def limitedWindow (unbounded : String) (limit offset : Option Nat) : List Token :=
  if limit.isNone && offset.isSome then
    [.keyword .limit, .mark .space, .verbatim unbounded, .mark .space] ++ offsetPart offset
  else standardWindow limit offset

/-- The window of rows with these bounds; empty without bounds. -/
def window : Dialect → Option Nat → Option Nat → List Token
  | postgres, limit, offset | duckdb, limit, offset => standardWindow limit offset
  | mysql, limit, offset => limitedWindow "18446744073709551615" limit offset
  | sqlite, limit, offset => limitedWindow "-1" limit offset

end Dialect

end GridQuery.Sql
