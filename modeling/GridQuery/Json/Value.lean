import GridQuery.Decimal.Shortest

/-! JSON values and their compact text. -/
namespace GridQuery

/-- A number of a JSON text: whole ones within 64 bits stay exact, all others are doubles. -/
inductive Json.Number where
  | integer (n : Int)
  | double (x : Decimal.Binary64)
  deriving DecidableEq, Repr

/-- A JSON value. The members of an object stand in the order of the text. -/
inductive Json where
  | null
  | boolean (value : Bool)
  | number (n : Json.Number)
  | string (content : String)
  | array (elements : List Json)
  | object (members : List (String × Json))
  deriving Repr

namespace Json

instance : Inhabited Json := ⟨null⟩

/-- Doubles stand without an exponent between 1e-5 and 1e16, whole ones with a zero after the point,
and halves go to the even neighbour. -/
def numberLayout : Decimal.Layout := ⟨fun exponent => -5 ≤ exponent && exponent ≤ 15, true, .even⟩

def Number.text : Number → String
  | integer n => toString n
  | double x => numberLayout.text x

def integer (n : Int) : Json := number (.integer n)

/-- A double, or null for one that is no finite number. -/
def ofDouble : Decimal.Binary64 → Json
  | .finite negative magnitude => number (.double (.finite negative magnitude))
  | _ => null

/-- A character inside quotes: quotes, backslashes and control characters are escaped. -/
def escapeChar (c : Char) : List Char :=
  match c with
  | '"' => ['\\', '"']
  | '\\' => ['\\', '\\']
  | '\n' => ['\\', 'n']
  | '\r' => ['\\', 'r']
  | '\t' => ['\\', 't']
  | '\x08' => ['\\', 'b']
  | '\x0c' => ['\\', 'f']
  | c =>
    if c.toNat < 0x20 then
      ['\\', 'u', '0', '0', Nat.digitChar (c.toNat / 16), Nat.digitChar (c.toNat % 16)]
    else [c]

/-- A text in quotes. -/
def quote (content : String) : String :=
  String.ofList ('"' :: content.toList.flatMap escapeChar ++ ['"'])

mutual

/-- The text without white space between its parts. -/
def compact : Json → String
  | null => "null"
  | boolean value => if value then "true" else "false"
  | number n => n.text
  | string content => quote content
  | array elements => "[" ++ ",".intercalate (compactElements elements) ++ "]"
  | object members => "\x7b" ++ ",".intercalate (compactMembers members) ++ "\x7d"

def compactElements : List Json → List String
  | [] => []
  | element :: rest => element.compact :: compactElements rest

def compactMembers : List (String × Json) → List String
  | [] => []
  | (key, value) :: rest => (quote key ++ ":" ++ value.compact) :: compactMembers rest

end

end Json

end GridQuery
