import GridQuery.Json.Value

/-! Tables as they grow while a document is read. A table knows how it came about, because that
decides what may still be added to it. -/
namespace GridQuery.Toml

/-- How a table came about. -/
inductive Origin where
  /-- On the way to a table that a header names. -/
  | implied
  /-- By a header of its own. -/
  | header
  /-- On the way to a value under a dotted key. -/
  | dotted
  deriving DecidableEq, Repr

/-- A part of a growing document. -/
inductive Node where
  /-- A value, to which nothing can be added. -/
  | value (value : Json)
  | table (origin : Origin) (members : List (String × Node))
  /-- Tables in a list, the last one first. -/
  | tables (elements : List (List (String × Node)))

namespace Node

abbrev Members := List (String × Node)

/-- Replaces the member of a key, or adds it at the end. -/
def put (key : String) (node : Node) : Members → Members
  | [] => [(key, node)]
  | (first, old) :: rest =>
    if first = key then (key, node) :: rest else (first, old) :: put key node rest

/-- Changes the table at the end of a path, making the tables on the way that are missing. -/
def update (isDotted : Bool) (change : Origin → Members → Option Members) :
    List String → Origin → Members → Option Members
  | [], origin, members => change origin members
  | key :: path, _, members => do
    match members.lookup key with
    | none =>
      let origin : Origin := if isDotted then .dotted else .implied
      return put key (.table origin (← update isDotted change path origin [])) members
    | some (.table origin inner) =>
      -- Dotted keys lead through no table that has a header of its own.
      if isDotted ∧ origin = .header then none
      else return put key (.table origin (← update isDotted change path origin inner)) members
    -- A path through a list of tables goes on in the table opened last.
    | some (.tables (last :: earlier)) =>
      return put key (.tables ((← update isDotted change path .header last) :: earlier)) members
    | some _ => none

/-- Adds a value under a key whose last part is not taken yet. -/
def addValue (path : List String) (value : Json) (members : Members) : Option Members := do
  let key ← path.getLast?
  let tables := path.dropLast
  let add (origin : Origin) (members : Members) : Option Members :=
    -- A plain key goes into the table that is open, a dotted one into a table made by dotted keys.
    let fits := if tables.isEmpty then origin ≠ .dotted else origin = .dotted
    if fits ∧ (members.lookup key).isNone then some (put key (.value value) members) else none
  update true add tables .header members

/-- Opens the table of a header, which must not have been opened before. -/
def openTable (path : List String) (members : Members) : Option Members := do
  let key ← path.getLast?
  let opened (_ : Origin) (members : Members) : Option Members :=
    match members.lookup key with
    | none => some (put key (.table .header []) members)
    -- A table that only stood on the way to another may still get its own header.
    | some (.table .implied inner) => some (put key (.table .header inner) members)
    | some _ => none
  update false opened path.dropLast .header members

/-- Opens one more table of a list. -/
def openElement (path : List String) (members : Members) : Option Members := do
  let key ← path.getLast?
  let opened (_ : Origin) (members : Members) : Option Members :=
    match members.lookup key with
    | none => some (put key (.tables [[]]) members)
    | some (.tables elements) => some (put key (.tables ([] :: elements)) members)
    | some _ => none
  update false opened path.dropLast .header members

mutual

/-- The value that a part comes to. -/
def toJson : Node → Json
  | value content => content
  | table _ members => .object (membersJson members)
  | tables elements => .array (elementsJson elements).reverse

def membersJson : List (String × Node) → List (String × Json)
  | [] => []
  | (key, node) :: rest => (key, node.toJson) :: membersJson rest

def elementsJson : List (List (String × Node)) → List Json
  | [] => []
  | members :: rest => .object (membersJson members) :: elementsJson rest

end

end Node

end GridQuery.Toml
