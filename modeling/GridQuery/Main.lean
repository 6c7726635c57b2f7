import GridQuery.CommandLine.Commands
import GridQuery.Text.Utf8

/-! The program: its files, its environment and its streams. -/
namespace GridQuery.CommandLine

/-- What a path leads to on the machine. -/
def fileOnDisk (path : String) : IO (Except FileFault String) := do
  try
    match Text.Utf8.decode? (← IO.FS.readBinFile path).toList with
    | some content => return .ok content
    | none => return .error .notText
  catch
    | .noFileOrDirectory .. => return .error .missing
    | .invalidArgument .. => return .error .longName
    -- A folder can be opened, so that no path comes with the failure to read from it.
    | .inappropriateType (some _) .. => return .error .notFolder
    | .inappropriateType none .. => return .error .folder
    | failure => return .error (.other (toString failure))

/-- The directory of the user's configuration: the one set for it, if absolute, else the usual one
in the home directory. -/
def userConfiguration : IO (Option String) := do
  let home := (← IO.getEnv "HOME").map (· ++ "/.config")
  return ((← IO.getEnv "XDG_CONFIG_HOME").filter (·.startsWith "/")).or home

/-- The machine that the program runs on. -/
def machine : Surroundings IO where
  file := fileOnDisk
  environment name := IO.getEnv name
  configDirectory := userConfiguration

/-- No database engine is part of the program, so that a run ends where it would open its
database. -/
def withoutEngine (_ : Loaded) (path : String) : IO Outcome :=
  return .failed ("Error opening '" ++ path ++ "': no database engine is built in")

end GridQuery.CommandLine

open GridQuery.CommandLine in
def main (arguments : List String) : IO UInt32 := do
  let outcome ← perform machine withoutEngine arguments
  (← IO.getStdout).putStr outcome.stdout
  (← IO.getStderr).putStr outcome.stderr
  return outcome.code.toUInt32
