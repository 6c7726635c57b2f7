/-! What a program finds around it: files and environment variables. The effects are those of any
monad, so that the same program runs on a machine and in a proof. -/
namespace GridQuery

/-- Why a path leads to no text. -/
inductive FileFault where
  | missing
  /-- The path goes on behind something that is no folder. -/
  | notFolder
  /-- The path, or a name on it, is longer than any that can exist. -/
  | longName
  | folder
  | notText
  | other (reason : String)
  deriving DecidableEq, Repr

namespace FileFault

def message : FileFault → String
  | missing => "No such file or directory (os error 2)"
  | notFolder => "Not a directory (os error 20)"
  | longName => "File name too long (os error 36)"
  | folder => "Is a directory (os error 21)"
  | notText => "stream did not contain valid UTF-8"
  | other reason => reason

/-- Whether nothing at all stands under the path. -/
def isAbsent : FileFault → Bool
  | missing | notFolder | longName => true
  | folder | notText | other _ => false

end FileFault

/-- Environment variables with their values. -/
abbrev Environment := List (String × String)

/-- The value of a variable: what follows its name and an equal sign. -/
def Environment.value? (environment : Environment) (name : String) : Option String :=
  if name.isEmpty then none
  -- A variable stands in the environment as its name, an equal sign and its value, of which only
  -- the beginning is compared; so a name that holds an equal sign may reach into a value.
  else environment.findSome? fun (variableName, value) =>
    ((name ++ "=").toList.isPrefixOf? (variableName ++ "=" ++ value).toList).map String.ofList

/-- The files and variables that a program can look up. -/
structure Surroundings (m : Type → Type) where
  file : String → m (Except FileFault String)
  environment : String → m (Option String)
  /-- The directory of the user's configuration, if there is one. -/
  configDirectory : m (Option String)

end GridQuery
