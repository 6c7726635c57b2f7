import GridQuery.Decimal.Reading
import GridQuery.Json.Value

/-! The unquoted scalars of TOML: truth values, integers, floats, dates and times. A scalar is read
from the whole of its characters. A number that is written in an allowed form, but that nothing can
hold, is null, for which TOML has no other use: it is refused only where it is looked at. -/
namespace GridQuery.Toml

open Decimal (isDigit ofDigits)

/-- The member under which a date or time stands where a value of the common kinds is due. -/
def dateMember : String := "$date"

/-- Digits of a base with single underscores between them, without the underscores. -/
def digitGroups? (base : Nat) : List Char → Option (List Char)
  | [] => none
  | c :: rest =>
    if (Decimal.digitValue? base c).isNone then none
    else match rest with
      | [] => some [c]
      | '_' :: more => (digitGroups? base more).map (c :: ·)
      | more => (digitGroups? base more).map (c :: ·)

/-- Decimal digits without a needless zero at the front. -/
def wholeDigits? (text : List Char) : Option (List Char) :=
  (digitGroups? 10 text).filter fun digits => digits.length = 1 || digits.head? ≠ some '0'

/-- The least integer that can be held. -/
def minInteger : Int := -(Nat.pow 2 127 : Nat)

/-- The greatest integer that can be held. -/
def maxInteger : Int := (Nat.pow 2 128 - 1 : Nat)

/-- An integer, if it can be held. -/
def held (n : Int) : Json := if minInteger ≤ n ∧ n ≤ maxInteger then .integer n else .null

/-- The integer of digits behind the mark of a base. -/
def inBase? (base : Nat) (digits : List Char) : Option Json :=
  -- The mark alone has the form of a number too, but it is none that can be held.
  if digits.isEmpty then some .null
  else (digitGroups? base digits).map fun digits => held (ofDigits base digits)

/-- Whether every underscore stands between two hexadecimal digits, the text having one before it if
it begins with an underscore. -/
def partsDigits : List Char → Bool
  | [] => true
  | ['_'] => false
  | '_' :: next :: rest => (Decimal.digitValue? 16 next).isSome && partsDigits (next :: rest)
  | c :: '_' :: rest => (Decimal.digitValue? 16 c).isSome && partsDigits ('_' :: rest)
  | _ :: rest => partsDigits rest

/-- Whether a text has the form of a decimal integer in groups. -/
def isGrouped (text : List Char) : Bool :=
  let (digits, rest) := Decimal.spanDigits text
  -- Behind the first group only the characters beside an underscore have to be digits, so that
  -- the text may still be no number.
  !digits.isEmpty && digits.head? ≠ some '0' && rest.head? = some '_' && partsDigits rest &&
    !rest.any ['.', 'e', 'E', ' '].contains

/-- The integer of a scalar. -/
def integer? (text : List Char) : Option Json :=
  match text with
  | '0' :: 'x' :: digits => inBase? 16 digits
  | '0' :: 'o' :: digits => inBase? 8 digits
  | '0' :: 'b' :: digits => inBase? 2 digits
  | _ =>
    let (negative, body) := Decimal.spanSign text
    match wholeDigits? body with
    | some digits =>
      let size : Int := ofDigits 10 digits
      some (held (if negative then -size else size))
    | none => if isGrouped body then some .null else none

/-- The exponent of a float behind its letter. -/
def exponent? (text : List Char) : Option Int := do
  let (negative, digits) := Decimal.spanSign text
  let size : Int := ofDigits 10 (← digitGroups? 10 digits)
  return if negative then -size else size

def isExponentMark (c : Char) : Bool := c = 'e' || c = 'E'

/-- The float of a scalar. -/
def float? (text : List Char) : Option Json := do
  let (negative, body) := Decimal.spanSign text
  if body = ['i', 'n', 'f'] then return .number (.double (.infinite negative))
  if body = ['n', 'a', 'n'] then return .number (.double .nan)
  let number := body.takeWhile (!isExponentMark ·)
  let whole ← wholeDigits? (number.takeWhile (· ≠ '.'))
  let fraction ← match number.dropWhile (· ≠ '.') with
    | [] => some []
    | _ :: digits => digitGroups? 10 digits
  let power ← match body.dropWhile (!isExponentMark ·) with
    | [] => if fraction.isEmpty then none else some 0
    | _ :: digits => exponent? digits
  let digits := ofDigits 10 (whole ++ fraction)
  match Decimal.Magnitude.ofDecimal? digits (power - fraction.length) with
  | some magnitude => return .number (.double (.finite negative magnitude))
  | none => return .null

/-- A number written in this many digits. -/
def fixedDigits? (count : Nat) (text : List Char) : Option (Nat × List Char) :=
  let digits := text.take count
  if digits.length = count ∧ digits.all isDigit then
    some (ofDigits 10 digits, text.drop count)
  else none

def expect? (expected : Char) : List Char → Option (List Char)
  | [] => none
  | c :: rest => if c = expected then some rest else none

def daysIn (year month : Nat) : Nat :=
  if month = 2 then
    if year % 4 = 0 ∧ (year % 100 ≠ 0 ∨ year % 400 = 0) then 29 else 28
  else if month = 4 ∨ month = 6 ∨ month = 9 ∨ month = 11 then 30
  else 31

/-- Passes a date of the calendar. -/
def date? (text : List Char) : Option (List Char) := do
  let (year, rest) ← fixedDigits? 4 text
  let (month, rest) ← fixedDigits? 2 (← expect? '-' rest)
  let (day, rest) ← fixedDigits? 2 (← expect? '-' rest)
  if 1 ≤ month ∧ month ≤ 12 ∧ 1 ≤ day ∧ day ≤ daysIn year month then some rest else none

/-- Passes the fraction of a second, if there is one. -/
def secondFraction? : List Char → Option (List Char)
  | '.' :: rest =>
    match Decimal.spanDigits rest with
    | ([], _) => none
    | (_, rest) => some rest
  | rest => some rest

/-- Passes a time of the day; the seconds may be left out. -/
def time? (text : List Char) : Option (List Char) := do
  let (hour, rest) ← fixedDigits? 2 text
  let (minute, rest) ← fixedDigits? 2 (← expect? ':' rest)
  if 23 < hour ∨ 59 < minute then none
  else match rest with
    | ':' :: rest => do
      let (second, rest) ← fixedDigits? 2 rest
      if 60 < second then none else secondFraction? rest
    | rest => some rest

/-- Passes the offset from universal time, if there is one. -/
def offset? : List Char → Option (List Char)
  | [] => some []
  | mark :: rest =>
    if mark = 'Z' ∨ mark = 'z' then some rest
    else if mark = '+' ∨ mark = '-' then do
      let (hours, rest) ← fixedDigits? 2 rest
      let (minutes, rest) ← fixedDigits? 2 (← expect? ':' rest)
      if hours ≤ 23 ∧ minutes ≤ 59 then some rest else none
    else none

/-- Whether a text is a date, a time, or both with or without an offset. -/
def isDateTime (text : List Char) : Bool :=
  let dated := do
    match ← date? text with
    | [] => some []
    | separator :: rest =>
      if separator = 'T' ∨ separator = 't' ∨ separator = ' ' then offset? (← time? rest) else none
  dated = some [] || time? text = some []

def scalar? (text : List Char) : Option Json :=
  if text = "true".toList then some (.boolean true)
  else if text = "false".toList then some (.boolean false)
  else if isDateTime text then some (.object [(dateMember, .string (String.ofList text))])
  else (integer? text).or (float? text)

end GridQuery.Toml
