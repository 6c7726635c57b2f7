import GridQuery.Decimal.Reading
import GridQuery.Json.Value

/-! JSON texts read as values, or read over without keeping anything. A reader takes the rest of the
text and gives back what it read with the rest behind it; what goes wrong is told apart by its class
only. -/
namespace GridQuery.Json

/-- The classes of failure: the text ended too early, it is no JSON, or it is JSON of another shape
than asked for. -/
inductive Fault where
  | ended
  | malformed
  | mismatched
  deriving DecidableEq, Repr

/-- The nesting that a text may have. -/
def maxDepth : Nat := 127

def skipWhite (text : List Char) : List Char :=
  text.dropWhile fun c => c = ' ' || c = '\t' || c = '\n' || c = '\r'

/-- Reads the given characters. -/
def word : List Char → List Char → Except Fault (List Char)
  | [], text => .ok text
  | _ :: _, [] => .error .ended
  | expected :: more, c :: rest => if c = expected then word more rest else .error .malformed

/-- Where in a string a reader stands. -/
inductive StringState where
  | plain
  | escape
  /-- Hexadecimal digits are due; a leading surrogate may stand before them. -/
  | hex (due bits : Nat) (leading : Option Nat)
  /-- The backslash of a trailing surrogate is due. -/
  | pairBackslash (leading : Nat)
  /-- The letter of a trailing surrogate is due. -/
  | pairLetter (leading : Nat)

/-- Whether fewer than the four bytes of a hexadecimal escape are left. -/
def shortOfHex (text : List Char) : Bool :=
  (text.take 4).foldl (fun size c => size + c.utf8Size) 0 < 4

def shortEscape? : Char → Option Char
  | '"' => some '"'
  | '\\' => some '\\'
  | '/' => some '/'
  | 'b' => some '\x08'
  | 'f' => some '\x0c'
  | 'n' => some '\n'
  | 'r' => some '\r'
  | 't' => some '\t'
  | _ => none

/-- Whether a unit is the first of a surrogate pair. -/
def isLeading (unit : Nat) : Bool := 0xd800 ≤ unit && unit ≤ 0xdbff

/-- Whether a unit is the second of a surrogate pair. -/
def isTrailing (unit : Nat) : Bool := 0xdc00 ≤ unit && unit ≤ 0xdfff

/-- Reads a string behind its opening quote; `done` holds, in reverse, what has been read. -/
def stringFrom (strict : Bool) :
    StringState → List Char → List Char → Except Fault (String × List Char)
  | _, _, [] => .error .ended
  | .plain, done, c :: rest =>
    if c = '"' then .ok (String.ofList done.reverse, rest)
    else if c = '\\' then stringFrom strict .escape done rest
    else if c.toNat < 0x20 then .error .malformed
    else stringFrom strict .plain (c :: done) rest
  | .escape, done, c :: rest =>
    if c = 'u' then
      if shortOfHex rest then .error .ended else stringFrom strict (.hex 4 0 none) done rest
    else match shortEscape? c with
      | some escaped => stringFrom strict .plain (escaped :: done) rest
      | none => .error .malformed
  | .hex due bits leading, done, c :: rest =>
    match Decimal.digitValue? 16 c with
    | none => .error .malformed
    | some digit =>
      let unit := bits * 16 + digit
      if 1 < due then stringFrom strict (.hex (due - 1) unit leading) done rest
      -- A reader that keeps nothing has no use for the unit, so its partner does not matter.
      else if !strict then stringFrom strict .plain done rest
      else match leading with
        | some first =>
          if isTrailing unit then
            let point := 0x10000 + (first - 0xd800) * 0x400 + (unit - 0xdc00)
            stringFrom strict .plain (Char.ofNat point :: done) rest
          else .error .malformed
        | none =>
          -- A surrogate without its partner is no character.
          if isTrailing unit then .error .malformed
          else if isLeading unit then stringFrom strict (.pairBackslash unit) done rest
          else stringFrom strict .plain (Char.ofNat unit :: done) rest
  | .pairBackslash leading, done, c :: rest =>
    if c = '\\' then stringFrom strict (.pairLetter leading) done rest else .error .malformed
  | .pairLetter leading, done, c :: rest =>
    if c ≠ 'u' then .error .malformed
    else if shortOfHex rest then .error .ended
    else stringFrom strict (.hex 4 0 (some leading)) done rest

def readString (text : List Char) : Except Fault (String × List Char) :=
  stringFrom true .plain [] text

/-- The double nearest to a power of ten within the range. -/
def tenTo (power : Nat) : Decimal.Magnitude :=
  (Decimal.Magnitude.ofRatio? (Nat.pow 10 power) 1).getD .zero

/-- Divides by a power of ten, by at most `10 ^ 308` at a time. -/
def scaleDown (magnitude : Decimal.Magnitude) (power : Nat) : Decimal.Magnitude :=
  if power ≤ 308 then (magnitude.div? (tenTo power)).getD .zero
  else if magnitude.mantissa = 0 then magnitude
  else scaleDown ((magnitude.div? (tenTo 308)).getD .zero) (power - 308)
termination_by power

/-- The double `significand * 10 ^ exponent`, rounded once as the significand and again after
scaling. -/
def approximate (significand : Nat) (exponent : Int) : Except Fault Decimal.Magnitude :=
  -- A significand of 64 bits is always within the range.
  let start := (Decimal.Magnitude.ofRatio? significand 1).getD .zero
  if exponent < 0 then .ok (scaleDown start (-exponent).toNat)
  else if exponent ≤ 308 then
    match start.mul? (tenTo exponent.toNat) with
    | some magnitude => .ok magnitude
    | none => .error .malformed
  else if significand = 0 then .ok start
  else .error .malformed

/-- Takes digits into a significand of at most 64 bits; also the count of those taken. -/
def absorb (significand : Nat) : List Char → Nat × Nat
  | [] => (significand, 0)
  | digit :: rest =>
    let next := significand * 10 + (Decimal.digitValue? 10 digit).getD 0
    if maxUnsigned < next then (significand, 0)
    else
      let (total, taken) := absorb next rest
      (total, taken + 1)

/-- Digits of which one at least is due. -/
def someDigits (text : List Char) : Except Fault (List Char × List Char) :=
  match Decimal.spanDigits text with
  | ([], []) => .error .ended
  | ([], _ :: _) => .error .malformed
  | found => .ok found

/-- The exponent behind its letter, if there is one. -/
def readExponent : List Char → Except Fault (Int × List Char)
  | mark :: rest =>
    if mark = 'e' ∨ mark = 'E' then do
      let (negative, unsigned) := Decimal.spanSign rest
      let (digits, rest) ← someDigits unsigned
      let size : Int := Decimal.ofDigits 10 digits
      return (if negative then -size else size, rest)
    else .ok (0, mark :: rest)
  | [] => .ok (0, [])

/-- The number of a significand with a power of ten, times another power that may follow. -/
def readScaled (negative : Bool) (significand : Nat) (exponent : Int) (text : List Char) :
    Except Fault (Number × List Char) := do
  let (power, rest) ← readExponent text
  let magnitude ← approximate significand (exponent + power)
  return (.double (.finite negative magnitude), rest)

/-- The whole number if it has 64 bits, else the double. -/
def whole (negative : Bool) (significand : Nat) : Number :=
  if !negative then .integer significand
  else if significand = 0 ∨ maxSigned + 1 < significand then
    .double (.signed true (Decimal.Magnitude.ofRatio? significand 1))
  else .integer (-significand)

/-- Reads what may follow the digits before the point. -/
def readFraction (negative : Bool) (significand dropped : Nat) :
    List Char → Except Fault (Number × List Char)
  | '.' :: rest => do
    let (digits, rest) ← someDigits rest
    let (significand, taken) := absorb significand digits
    readScaled negative significand (dropped - taken) rest
  | text =>
    match text.head? with
    | some 'e' | some 'E' => readScaled negative significand dropped text
    | _ =>
      if dropped = 0 then .ok (whole negative significand, text)
      else readScaled negative significand dropped text

/-- Reads a number behind its minus sign, if it has one. A zero at the front stands alone. -/
def readNumber (negative : Bool) (text : List Char) : Except Fault (Number × List Char) := do
  let (digits, rest) ← someDigits text
  if digits.head? = some '0' ∧ 1 < digits.length then .error .malformed
  else
    let (significand, taken) := absorb 0 digits
    readFraction negative significand (digits.length - taken) rest

/-- Reads the members of an object behind its opening brace, handing each key on with the text
behind it. -/
def readMembers {σ : Type} (member : σ → String → List Char → Except Fault (σ × List Char)) :
    Nat → Bool → σ → List Char → Except Fault (σ × List Char)
  -- No text has more members than characters, so the steps do not run out before it does.
  | 0, _, _, _ => .error .ended
  | steps + 1, isFirst, state, text => do
    let key (rest : List Char) : Except Fault (σ × List Char) := do
      let (name, rest) ← readString rest
      let (state, rest) ← member state name rest
      readMembers member steps false state rest
    match skipWhite text with
    | [] => .error .ended
    | '}' :: rest => .ok (state, rest)
    | '"' :: rest => if isFirst then key rest else .error .malformed
    | ',' :: rest =>
      if isFirst then .error .malformed
      else match skipWhite rest with
        | [] => .error .ended
        | '"' :: rest => key rest
        | _ => .error .malformed
    | _ => .error .malformed

/-- Moves on to an element of an array: true if there is one, false at the closing bracket, which
stays. -/
def toElement (isFirst : Bool) (text : List Char) : Except Fault (Bool × List Char) :=
  match skipWhite text with
  | [] => .error .ended
  | ']' :: rest => .ok (false, ']' :: rest)
  | ',' :: rest =>
    if isFirst then .ok (true, ',' :: rest)
    else match skipWhite rest with
      | [] => .error .ended
      | ']' :: _ => .error .malformed
      | next => .ok (true, next)
  | next => if isFirst then .ok (true, next) else .error .malformed

/-- Reads the elements of an array behind its opening bracket, up to and with the closing one. -/
def readElements (element : List Char → Except Fault (Json × List Char)) :
    Nat → Bool → List Json → List Char → Except Fault (List Json × List Char)
  | 0, _, _, _ => .error .ended
  | steps + 1, isFirst, found, text => do
    match ← toElement isFirst text with
    | (true, rest) =>
      let (value, rest) ← element rest
      readElements element steps false (value :: found) rest
    | (false, rest) => return (found.reverse, rest.drop 1)

/-- Passes the colon between a key and its value. -/
def colon (text : List Char) : Except Fault (List Char) :=
  match skipWhite text with
  | [] => .error .ended
  | ':' :: rest => .ok rest
  | _ => .error .malformed

/-- Reads a value that may nest this deep. -/
def readValue : Nat → List Char → Except Fault (Json × List Char)
  | depth, text =>
    match skipWhite text with
    | [] => .error .ended
    | 'n' :: rest => do return (.null, ← word ['u', 'l', 'l'] rest)
    | 't' :: rest => do return (.boolean true, ← word ['r', 'u', 'e'] rest)
    | 'f' :: rest => do return (.boolean false, ← word ['a', 'l', 's', 'e'] rest)
    | '"' :: rest => do
      let (content, rest) ← readString rest
      return (.string content, rest)
    | '-' :: rest => do
      let (n, rest) ← readNumber true rest
      return (.number n, rest)
    | '[' :: rest =>
      match depth with
      | 0 => .error .malformed
      | inner + 1 => do
        let (elements, rest) ← readElements (readValue inner) (rest.length + 1) true [] rest
        return (.array elements, rest)
    | '{' :: rest =>
      match depth with
      | 0 => .error .malformed
      | inner + 1 => do
        let member (found : List (String × Json)) (key : String) (rest : List Char) := do
          let (value, rest) ← readValue inner (← colon rest)
          return ((key, value) :: found, rest)
        let (members, rest) ← readMembers member (rest.length + 1) true [] rest
        return (.object members.reverse, rest)
    | c :: rest =>
      if Decimal.isDigit c then do
        let (n, rest) ← readNumber false (c :: rest)
        return (.number n, rest)
      else .error .malformed

/-- Nothing but white space may follow. -/
def atEnd (text : List Char) : Except Fault Unit :=
  if (skipWhite text).isEmpty then .ok () else .error .malformed

def read (text : String) : Except Fault Json := do
  let (value, rest) ← readValue maxDepth text.toList
  atEnd rest
  return value

end GridQuery.Json
