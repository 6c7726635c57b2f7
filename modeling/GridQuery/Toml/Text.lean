import GridQuery.Decimal.Reading

/-! The lexical parts of TOML: blanks, comments, line ends, the four kinds of strings, and keys.
Each reader takes the rest of the text and gives back what is behind the part it read, or nothing
where the text is not of that form. -/
namespace GridQuery.Toml

/-- Whether a character may stand in a text: control characters other than the tab may not. -/
def isPlain (c : Char) : Bool := c = '\t' || (0x20 ≤ c.toNat && c.toNat ≠ 0x7f)

def skipBlanks (text : List Char) : List Char := text.dropWhile fun c => c = ' ' || c = '\t'

/-- Passes a line end, in either form. -/
def lineEnd? : List Char → Option (List Char)
  | '\n' :: rest => some rest
  | '\r' :: '\n' :: rest => some rest
  | _ => none

/-- Passes a comment up to the end of its line, if there is one. -/
def skipComment (text : List Char) : List Char :=
  match text with
  | '#' :: rest => rest.dropWhile isPlain
  | _ => text

/-- Passes blanks, comments and line ends. -/
def skipLines : Nat → List Char → List Char
  -- No text has more line ends than characters.
  | 0, text => text
  | steps + 1, text =>
    match lineEnd? (skipComment (skipBlanks text)) with
    | some rest => skipLines steps rest
    | none => skipComment (skipBlanks text)

/-- Passes all blanks, comments and line ends. -/
def skipSpace (text : List Char) : List Char := skipLines text.length text

/-- The character of a hexadecimal escape with this many digits. -/
def hexEscape? (count : Nat) (text : List Char) : Option (Char × List Char) :=
  let digits := text.take count
  let point := Decimal.ofDigits 16 digits
  let areHex := digits.all fun c => (Decimal.digitValue? 16 c).isSome
  if digits.length = count ∧ areHex ∧ point.isValidChar then
    some (Char.ofNat point, text.drop count)
  else none

/-- The character of an escape behind its backslash. -/
def escape? : List Char → Option (Char × List Char)
  | 'b' :: rest => some ('\x08', rest)
  | 't' :: rest => some ('\t', rest)
  | 'n' :: rest => some ('\n', rest)
  | 'f' :: rest => some ('\x0c', rest)
  | 'r' :: rest => some ('\r', rest)
  | 'e' :: rest => some ('\x1b', rest)
  | '"' :: rest => some ('"', rest)
  | '\\' :: rest => some ('\\', rest)
  | 'x' :: rest => hexEscape? 2 rest
  | 'u' :: rest => hexEscape? 4 rest
  | 'U' :: rest => hexEscape? 8 rest
  | _ => none

/-- Reads a basic string behind its quote. -/
def basic? : Nat → List Char → List Char → Option (String × List Char)
  | 0, _, _ => none
  | steps + 1, done, text =>
    match text with
    | [] => none
    | '"' :: rest => some (String.ofList done.reverse, rest)
    | '\\' :: rest => do
      let (c, rest) ← escape? rest
      basic? steps (c :: done) rest
    | c :: rest => if isPlain c then basic? steps (c :: done) rest else none

def literal? (text : List Char) : Option (String × List Char) :=
  match text.dropWhile fun c => isPlain c && c ≠ '\'' with
  | '\'' :: rest => some (String.ofList (text.takeWhile fun c => isPlain c && c ≠ '\''), rest)
  | _ => none

/-- Passes blanks and line ends. -/
def skipGap : List Char → List Char
  | ' ' :: rest | '\t' :: rest | '\n' :: rest | '\r' :: '\n' :: rest => skipGap rest
  | text => text

/-- Passes what a backslash at the end of a line trims: the blanks up to the line end, and the gap
behind it. -/
def trimmed? (text : List Char) : Option (List Char) := (lineEnd? (skipBlanks text)).map skipGap

/-- Splits off the quotes that a text begins with. -/
def spanQuotes (quote : Char) (text : List Char) : Nat × List Char :=
  -- The three quotes that close a string may follow two that belong to it.
  let count := min 5 (text.takeWhile (· = quote)).length
  (count, text.drop count)

/-- Reads a string of several lines behind its three quotes and its first line end; escapes count in
basic strings only. -/
def multiline? (quote : Char) (escapes : Bool) :
    Nat → List Char → List Char → Option (String × List Char)
  | 0, _, _ => none
  | steps + 1, done, text =>
    match text with
    | [] => none
    | c :: rest =>
      if c = quote then
        -- Of more than three quotes the last three close the string, and the others belong to it.
        let (count, after) := spanQuotes quote text
        let inside := List.replicate (if 3 ≤ count then count - 3 else count) quote ++ done
        if 3 ≤ count then some (String.ofList inside.reverse, after)
        else multiline? quote escapes steps inside after
      else if escapes && c = '\\' then
        match trimmed? rest with
        | some rest => multiline? quote escapes steps done rest
        | none => do
          let (c, rest) ← escape? rest
          multiline? quote escapes steps (c :: done) rest
      else if isPlain c then multiline? quote escapes steps (c :: done) rest
      else match lineEnd? text with
        | some after =>
          -- A line end stays as it is written.
          let before := if c = '\r' then '\r' :: done else done
          multiline? quote escapes steps ('\n' :: before) after
        | none => none

/-- Passes the line end that may follow the opening quotes. -/
def afterOpening (text : List Char) : List Char := (lineEnd? text).getD text

/-- Reads a string of any kind. -/
def string? (text : List Char) : Option (String × List Char) :=
  match text with
  | '"' :: '"' :: '"' :: rest => multiline? '"' true (rest.length + 1) [] (afterOpening rest)
  | '\'' :: '\'' :: '\'' :: rest => multiline? '\'' false (rest.length + 1) [] (afterOpening rest)
  | '"' :: rest => basic? (rest.length + 1) [] rest
  | '\'' :: rest => literal? rest
  | _ => none

/-- Whether a character may stand in a key without quotes. -/
def isBareKey (c : Char) : Bool := c.isAlphanum || c = '_' || c = '-'

/-- Reads one part of a key. -/
def simpleKey? (text : List Char) : Option (String × List Char) :=
  match text with
  | '"' :: rest => basic? (rest.length + 1) [] rest
  | '\'' :: rest => literal? rest
  | _ =>
    match text.takeWhile isBareKey with
    | [] => none
    | bare => some (String.ofList bare, text.dropWhile isBareKey)

/-- The number of parts that a key can have, and the nesting that values can have. -/
def maxDepth : Nat := 80

/-- Reads at most so many parts of a key, with dots between them and blanks around the dots. -/
def keyParts? : Nat → List Char → Option (List String × List Char)
  | 0, _ => none
  | count + 1, text => do
    let (part, rest) ← simpleKey? (skipBlanks text)
    match skipBlanks rest with
    | '.' :: rest => do
      let (parts, rest) ← keyParts? count rest
      return (part :: parts, rest)
    | rest => return ([part], rest)

def key? (text : List Char) : Option (List String × List Char) := keyParts? maxDepth text

end GridQuery.Toml
