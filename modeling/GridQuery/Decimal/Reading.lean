import GridQuery.Decimal.Binary64
import GridQuery.Text.Blank

/-! Digits read as numbers, and decimal texts read as the nearest double. -/
namespace GridQuery.Decimal

/-- The value of a digit in a base up to sixteen. -/
def digitValue? (base : Nat) (c : Char) : Option Nat :=
  let n := c.toNat
  let value? :=
    if 0x30 ≤ n ∧ n ≤ 0x39 then some (n - 0x30)
    else if 0x41 ≤ n ∧ n ≤ 0x46 then some (n - 0x37)
    else if 0x61 ≤ n ∧ n ≤ 0x66 then some (n - 0x57)
    else none
  value?.filter (· < base)

def isDigit (c : Char) : Bool := (digitValue? 10 c).isSome

/-- The number that digits stand for in a base. -/
def ofDigits (base : Nat) (digits : List Char) : Nat :=
  digits.foldl (fun number c => number * base + (digitValue? base c).getD 0) 0

def spanDigits (text : List Char) : List Char × List Char :=
  (text.takeWhile isDigit, text.dropWhile isDigit)

/-- Splits off one sign; true is minus. -/
def spanSign : List Char → Bool × List Char
  | '-' :: rest => (true, rest)
  | '+' :: rest => (false, rest)
  | text => (false, text)

/-- The number of the leading digits, a greater one than the signed integers of 64 bits hold being
their end. -/
def saturatingDigits (text : List Char) : Nat :=
  (text.takeWhile isDigit).foldl
    (fun number c => min (min (number * 10) maxSigned + (digitValue? 10 c).getD 0) maxSigned) 0

/-- The integer at the front of a text: white space, a sign and digits. What is missing counts as
nothing, and what follows is not looked at. -/
def leadingInteger (text : String) : Int :=
  let (negative, rest) := spanSign (Text.trimLeft text.toList)
  if negative then -(saturatingDigits rest : Int) else saturatingDigits rest

/-- The natural number below 2^64 that a text spells in digits, with a plus sign or without one. -/
def natural? (text : List Char) : Option Nat :=
  let digits := match text with
    | '+' :: rest => rest
    | _ => text
  if digits.isEmpty || !digits.all isDigit || maxUnsigned < ofDigits 10 digits then none
  else some (ofDigits 10 digits)

/-- The exponent after a mantissa: nothing, or a letter with a signed number behind it. -/
def exponentPart? : List Char → Option Int
  | [] => some 0
  | mark :: rest =>
    if mark = 'e' ∨ mark = 'E' then
      let (negative, digits) := spanSign rest
      if digits.isEmpty ∨ !digits.all isDigit then none
      else some (if negative then -(ofDigits 10 digits : Int) else ofDigits 10 digits)
    else none

/-- The double of a decimal text with an optional sign, point and exponent, or of the words for
infinity and for what is no number, in any case. -/
def readDouble? (text : String) : Option Binary64 :=
  let (negative, body) := spanSign text.toList
  let word := String.ofList (body.map Char.toLower)
  if word = "inf" ∨ word = "infinity" then some (.infinite negative)
  else if word = "nan" then some .nan
  else
    let (whole, afterWhole) := spanDigits body
    let (fraction, afterFraction) := match afterWhole with
      | '.' :: rest => spanDigits rest
      | rest => ([], rest)
    if whole.isEmpty && fraction.isEmpty then none
    else (exponentPart? afterFraction).map fun exponent =>
      let digits := ofDigits 10 (whole ++ fraction)
      .signed negative (Magnitude.ofDecimal? digits (exponent - fraction.length))

end GridQuery.Decimal
