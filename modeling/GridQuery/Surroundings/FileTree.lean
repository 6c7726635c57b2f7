import GridQuery.Surroundings
import GridQuery.Text.Utf8

/-! Files held in memory, and what a path leads to among them. They stand in for those of a machine
where a program is to be looked at without one. -/
namespace GridQuery

/-- What stands under a path. -/
inductive Entry where
  | file (bytes : List UInt8)
  | folder
  deriving DecidableEq, Repr

/-- The files of a machine. -/
structure FileTree where
  /-- The entries by the names on their paths from the root. -/
  entries : List (List String × Entry)
  /-- The names on the path from the root to the current directory. -/
  current : List String
  deriving DecidableEq, Repr

namespace FileTree

/-- Whether a part of a path stays where it is. -/
def stays (part : String) : Bool := part.isEmpty || part = "."

/-- What every machine has: the folders in its root, and the device that is always empty. -/
def standard : List (List String × Entry) :=
  let folders := ["bin", "dev", "etc", "home", "lib", "opt", "proc", "root", "run", "sbin", "sys",
    "tmp", "usr", "var"]
  (["dev", "null"], .file []) :: folders.map fun name => ([name], .folder)

/-- The machine that has these files in its current directory, by their paths from there. -/
def ofFiles (files : List (String × Entry)) : FileTree :=
  let current := ["tmp", "work"]
  let placed := files.map fun (path, entry) =>
    (current ++ (path.splitOn "/").filter (!stays ·), entry)
  ⟨standard ++ placed, current⟩

/-- What stands at a place. The current directory is a folder, and so is whatever lies on the way to
it or to an entry. -/
def entry? (tree : FileTree) (place : List String) : Option Entry :=
  let isBelow (names : List String) := place.isPrefixOf names && place.length < names.length
  if place.isPrefixOf tree.current || tree.entries.any (isBelow ·.1) then some .folder
  else tree.entries.lookup place

/-- The number of bytes that a name can have. -/
def maxName : Nat := 255

/-- The number of bytes that a path can have. -/
def maxPath : Nat := 4095

/-- Follows the parts of a path from a place. -/
def follow (tree : FileTree) : List String → List String → Except FileFault Entry
  | place, [] =>
    match tree.entry? place with
    | some entry => .ok entry
    | none => .error .missing
  | place, part :: rest =>
    match tree.entry? place with
    | none => .error .missing
    | some (.file _) => .error .notFolder
    | some .folder =>
      if stays part then tree.follow place rest
      -- The root is its own parent.
      else if part = ".." then tree.follow place.dropLast rest
      else if maxName < part.utf8ByteSize then .error .longName
      else tree.follow (place ++ [part]) rest

def read (tree : FileTree) (path : String) : Except FileFault String := do
  if path.isEmpty then throw .missing
  if maxPath < path.utf8ByteSize then throw .longName
  let start := if path.startsWith "/" then [] else tree.current
  match ← tree.follow start (path.splitOn "/") with
  | .folder => throw .folder
  | .file bytes =>
    match Text.Utf8.decode? bytes with
    | some content => return content
    | none => throw .notText

/-- The surroundings with these files and variables only. -/
def surroundings (tree : FileTree) (environment : Environment) (configDirectory : Option String) :
    Surroundings Id where
  file := tree.read
  environment := environment.value?
  configDirectory := configDirectory

end FileTree

end GridQuery
