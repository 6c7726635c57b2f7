/-! The values that travel beside a statement, bound to its placeholders. -/
namespace GridQuery.Sql

/-- A value for one placeholder. -/
inductive Value where
  | null
  | integer (n : Int)
  | text (content : String)
  deriving DecidableEq, Repr

namespace Value

def asText? : Value → Option String
  | text content => some content
  | _ => none

def asInteger? : Value → Option Int
  | integer n => some n
  | _ => none

/-- The value as a reader sees it in a listing. -/
def display : Value → String
  | null => "NULL"
  | integer n => toString n
  | text content => content

/-- Null comes first, then the integers, then the texts by code point. -/
def before : Value → Value → Bool
  | null, null => false
  | null, _ => true
  | integer _, null => false
  | integer m, integer n => decide (m < n)
  | integer _, text _ => true
  | text s, text t => decide (s < t)
  | text _, _ => false

def sort (values : List Value) : List Value :=
  values.mergeSort fun first second => !second.before first

end Value

/-- A statement's text with the values of its placeholders, in their order. -/
structure Bound where
  text : String
  params : List Value
  deriving DecidableEq, Repr

end GridQuery.Sql
