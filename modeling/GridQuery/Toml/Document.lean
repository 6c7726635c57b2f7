import GridQuery.Toml.Scalar
import GridQuery.Toml.Table
import GridQuery.Toml.Text

/-! TOML documents read as values. A document is refused as a whole or read as a whole. -/
namespace GridQuery.Toml

/-- The characters that end an unquoted scalar. -/
def delimiters : List Char := ['=', ',', '[', ']', '\x7b', '\x7d', '#', ' ', '\t', '\r', '\n']

/-- Whether a character goes on with an unquoted scalar. -/
def isScalarChar (c : Char) : Bool := !delimiters.contains c

/-- Reads an unquoted scalar. -/
def readScalar? (text : List Char) : Option (Json × List Char) := do
  let first := text.takeWhile isScalarChar
  let rest := text.dropWhile isScalarChar
  -- One blank may part a date from the time behind it, which begins with a digit.
  let (whole, rest) := match date? first, rest with
    | some [], ' ' :: next :: more =>
      if Decimal.isDigit next then
        (first ++ ' ' :: (next :: more).takeWhile isScalarChar, more.dropWhile isScalarChar)
      else (first, rest)
    | _, _ => (first, rest)
  return (← scalar? whole, rest)

/-- Reads the elements of an array behind its opening bracket; a comma may stand behind the last
one. -/
def readElements? (element : List Char → Option (Json × List Char)) :
    Nat → List Json → List Char → Option (List Json × List Char)
  | 0, _, _ => none
  | steps + 1, found, text =>
    match skipSpace text with
    | ']' :: rest => some (found.reverse, rest)
    | text => do
      let (value, rest) ← element text
      match skipSpace rest with
      | ',' :: rest => readElements? element steps (value :: found) rest
      | ']' :: rest => return ((value :: found).reverse, rest)
      | _ => none

/-- Reads a key, its equal sign and its value, with what `skip` passes around the equal sign. -/
def readPair? (skip : List Char → List Char) (value : List Char → Option (Json × List Char))
    (text : List Char) : Option (List String × Json × List Char) := do
  let (path, rest) ← key? text
  let (content, rest) ← value (skip (← expect? '=' (skip rest)))
  return (path, content, rest)

/-- Reads the members of an inline table behind its opening brace; a comma may stand behind the last
one. Lines may end anywhere but inside a key. -/
def readMembers? (value : List Char → Option (Json × List Char)) :
    Nat → Node.Members → List Char → Option (Node.Members × List Char)
  | 0, _, _ => none
  | steps + 1, members, text =>
    match skipSpace text with
    | '}' :: rest => some (members, rest)
    | text => do
      let (path, content, rest) ← readPair? skipSpace value text
      let members ← Node.addValue path content members
      match skipSpace rest with
      | ',' :: rest => readMembers? value steps members rest
      | '}' :: rest => return (members, rest)
      | _ => none

def readValue? : Nat → List Char → Option (Json × List Char)
  | depth, text =>
    match text, depth with
    | '"' :: _, _ | '\'' :: _, _ =>
      (string? text).map fun (content, rest) => (.string content, rest)
    | '[' :: rest, inner + 1 =>
      (readElements? (readValue? inner) (rest.length + 1) [] rest).map fun (elements, rest) =>
        (.array elements, rest)
    | '{' :: rest, inner + 1 =>
      (readMembers? (readValue? inner) (rest.length + 1) [] rest).map fun (members, rest) =>
        (.object (Node.membersJson members), rest)
    | _, _ => readScalar? text

/-- A document while it is read: the path of the table whose keys follow, and all tables so far. -/
structure Draft where
  current : List String := []
  members : Node.Members := []

/-- Adds a value under a key of the current table. -/
def Draft.add (draft : Draft) (path : List String) (value : Json) : Option Draft := do
  let add (_ : Origin) := Node.addValue path value
  let members ← Node.update false add draft.current .header draft.members
  return { draft with members := members }

/-- Reads a header behind its first bracket. -/
def readHeader? (draft : Draft) (text : List Char) : Option (Draft × List Char) :=
  match text with
  | '[' :: rest => do
    let (path, rest) ← key? rest
    let rest ← expect? ']' (← expect? ']' rest)
    return (⟨path, ← Node.openElement path draft.members⟩, rest)
  | rest => do
    let (path, rest) ← key? rest
    let rest ← expect? ']' rest
    return (⟨path, ← Node.openTable path draft.members⟩, rest)

/-- Reads what one line holds besides blanks and a comment. -/
def readLine? (draft : Draft) (text : List Char) : Option (Draft × List Char) :=
  match text with
  | [] | '\n' :: _ | '\r' :: _ | '#' :: _ => some (draft, text)
  | '[' :: rest => readHeader? draft rest
  | _ => do
    let (path, value, rest) ← readPair? skipBlanks (readValue? maxDepth) text
    return (← draft.add path value, rest)

/-- Reads the lines of a document. -/
def readLines? : Nat → Draft → List Char → Option Draft
  -- No text has more lines than characters and one.
  | 0, _, _ => none
  | steps + 1, draft, text => do
    let (draft, rest) ← readLine? draft (skipBlanks text)
    match skipComment (skipBlanks rest) with
    | [] => return draft
    | rest => readLines? steps draft (← lineEnd? rest)

/-- The value of a document; a byte order mark may stand before it. -/
def read? (text : String) : Option Json := do
  let characters := match text.toList with
    | '\ufeff' :: rest => rest
    | characters => characters
  let draft ← readLines? (characters.length + 1) {} characters
  return .object (Node.membersJson draft.members)

end GridQuery.Toml
