import GridQuery.Grid.Request
import GridQuery.Json.Skipping

/-! Requests as they are sent: JSON in which numbers may be written as texts and positions are keys.
Malformed numbers never fail; they read as zero, and keys that name no position are left out. -/
namespace GridQuery.Grid

/-- A request as it is sent; null stands for a missing page or size. -/
structure Wire where
  page : Json := .null
  size : Json := .null
  sort : SortedMap String Json := .empty
  filter : SortedMap String Json := .empty

namespace Wire

/-- The integer that a number or a text comes to, zero for anything else. -/
def integerOf : Json → Int
  | .number (.integer n) => clampSigned n
  | .number (.double x) => x.toSigned
  | .string text => Decimal.leadingInteger text
  | _ => 0

/-- The position that a key names. -/
def position? (key : String) : Option Nat := Decimal.natural? (Text.trim key).toList

/-- The text of a filter; null, arrays and objects are none. -/
def scalarText? : Json → Option String
  | .string text => some text
  | .number n => some n.text
  | .boolean value => some (if value then "true" else "false")
  | _ => none

/-- The page size; without one the given size counts. -/
def pageSize (defaultSize : Nat) : Json → PageSize
  | .null => .rows defaultSize
  | .string "all" => .all
  | size => .rows (integerOf size).toNat

/-- The entry that a member comes to, if its key names a position and its value can be read. -/
def positioned? {α : Type} (value? : Json → Option α) (member : String × Json) :
    Option (Nat × α) := do
  return (← position? member.1, ← value? member.2)

/-- The request that is meant. -/
def toRequest (wire : Wire) (defaultSize : Nat) : Request where
  page := (integerOf wire.page).toNat
  size := pageSize defaultSize wire.size
  -- Of keys that name one position the last in code point order counts.
  sort := .ofList (wire.sort.entries.filterMap (positioned? fun code => some (integerOf code)))
  filter := .ofList (wire.filter.entries.filterMap (positioned? scalarText?))

open Json (Fault)

/-- The members read so far. -/
structure Progress where
  page : Option Json := none
  size : Option Json := none
  sort : Option (SortedMap String Json) := none
  filter : Option (SortedMap String Json) := none

def Progress.finish (progress : Progress) : Wire where
  page := progress.page.getD .null
  size := progress.size.getD .null
  sort := progress.sort.getD .empty
  filter := progress.filter.getD .empty

/-- The nesting left inside the request. -/
def depth : Nat := Json.maxDepth - 1

/-- Reads an object as a map; of equal keys the last one counts. -/
def readMap (text : List Char) : Except Fault (SortedMap String Json × List Char) :=
  match Json.skipWhite text with
  | [] => .error .ended
  | '{' :: rest =>
    -- The map itself is one level of the nesting.
    let member (map : SortedMap String Json) (key : String) (rest : List Char) := do
      let (value, rest) ← Json.readValue (depth - 1) (← Json.colon rest)
      return (map.insert key value, rest)
    Json.readMembers member (rest.length + 1) true .empty rest
  | rest => .error (Json.notObject rest)

/-- Puts a member where it belongs; one that is there already is refused before its value is
read. -/
def place {α : Type} (read : List Char → Except Fault (α × List Char)) (old : Option α)
    (put : α → Progress) (text : List Char) : Except Fault (Progress × List Char) :=
  match old with
  | some _ => .error .mismatched
  | none => do
    let (value, rest) ← read (← Json.colon text)
    return (put value, rest)

/-- Reads one member; others than the four are passed over. -/
def readMember (progress : Progress) (key : String) (text : List Char) :
    Except Fault (Progress × List Char) :=
  match key with
  | "page" => place (Json.readValue depth) progress.page ({ progress with page := some · }) text
  | "size" => place (Json.readValue depth) progress.size ({ progress with size := some · }) text
  | "sort" => place readMap progress.sort ({ progress with sort := some · }) text
  | "filter" => place readMap progress.filter ({ progress with filter := some · }) text
  | _ => do return (progress, ← Json.skipValue (← Json.colon text))

/-- Reads an element of the array form, or takes the default behind the last one. -/
def readSlot {α : Type} (read : List Char → Except Fault (α × List Char)) (default : α)
    (isFirst : Bool) (text : List Char) : Except Fault (α × List Char) := do
  match ← Json.toElement isFirst text with
  | (true, rest) => read rest
  | (false, rest) => return (default, rest)

/-- Reads the array form behind its opening bracket: page, size, sort and filter, the last ones left
out at will. -/
def readSlots (text : List Char) : Except Fault (Wire × List Char) := do
  let (page, text) ← readSlot (Json.readValue depth) .null true text
  let (size, text) ← readSlot (Json.readValue depth) .null false text
  let (sort, text) ← readSlot readMap .empty false text
  let (filter, text) ← readSlot readMap .empty false text
  match Json.skipWhite text with
  | [] => .error .ended
  | ']' :: rest => return (⟨page, size, sort, filter⟩, rest)
  | _ => .error .malformed

/-- Reads the object form behind its opening brace. -/
def readObject (text : List Char) : Except Fault (Wire × List Char) := do
  let (progress, rest) ← Json.readMembers readMember (text.length + 1) true {} text
  return (progress.finish, rest)

def read (text : String) : Except Fault Wire := do
  let (wire, rest) ← match Json.skipWhite text.toList with
    | [] => .error .ended
    | '[' :: rest => readSlots rest
    | '{' :: rest => readObject rest
    | rest => .error (Json.notObject rest)
  Json.atEnd rest
  return wire

end Wire

/-- Reads the text of a request, with a size for requests that name none. -/
def Request.read (text : String) (defaultSize : Nat) : Except Json.Fault Request :=
  (·.toRequest defaultSize) <$> Wire.read text

end GridQuery.Grid
