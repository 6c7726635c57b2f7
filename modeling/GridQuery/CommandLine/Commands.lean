import GridQuery.CommandLine.Help
import GridQuery.Grid.Answer
import GridQuery.Grid.Definition.Reading
import GridQuery.Grid.Request.Wire
import GridQuery.Settings
import GridQuery.Sql.Value.Reading

/-! The commands: what each prints and the code it ends with. -/
namespace GridQuery.CommandLine

open Sql Grid

/-- What a command leaves behind. -/
structure Outcome where
  code : Nat
  stdout : String
  stderr : String
  deriving DecidableEq, Repr

def Outcome.printed (output : String) : Outcome := ⟨0, output, ""⟩

def Outcome.failed (message : String) : Outcome := ⟨1, "", message ++ "\n"⟩

def version : String := "0.1.0"

/-- What is printed where arguments give no command. -/
def Refusal.outcome : Refusal → Outcome
  | usage problem => ⟨2, "", "error: " ++ problem ++ "\n\nFor more information, try '--help'.\n"⟩
  | help topic isLong => .printed (topic.helpText isLong)
  | nothing => ⟨2, "", Topic.program.helpText false⟩
  | version => .printed ("tablesift " ++ CommandLine.version ++ "\n")

/-- Why a request cannot be taken up. -/
inductive LoadError where
  | tableUnread (path : String) (fault : FileFault)
  | tableUnparsed (path : String)
  | tableRefused (path : String) (error : DefinitionError)
  | paramsRefused (fault : Json.Fault)
  deriving DecidableEq, Repr

def faultText : Json.Fault → String
  | .ended => "unexpected end of the text"
  | .malformed => "not a JSON text"
  | .mismatched => "not the shape of a request"

def LoadError.message : LoadError → String
  | tableUnread path fault =>
    "Error loading table '" ++ path ++ "': failed to read table definition: " ++ fault.message
  | tableUnparsed path =>
    "Error loading table '" ++ path ++ "': failed to parse table definition: no definition in TOML"
  | tableRefused path error => "Error in table '" ++ path ++ "': " ++ error.message
  | paramsRefused fault => "Error parsing params: " ++ faultText fault

/-- A request with the registry and the base query of its table. -/
structure Loaded where
  registry : Registry
  base : Query
  request : Request

/-- Takes up a request: the definition first, then its registry, then the parameters. -/
def load (settings : Settings) (path params : String) (file : Except FileFault String) :
    Except LoadError Loaded := do
  let content ← file.mapError (.tableUnread path)
  let definition ← match TableDefinition.ofToml? content with
    | some definition => .ok definition
    | none => .error (.tableUnparsed path)
  let registry ← (definition.registry settings.primaryKey).mapError (.tableRefused path)
  let request ← (Request.read params settings.pageSize).mapError .paramsRefused
  return ⟨registry, definition.baseQuery settings.primaryKey, request⟩

/-- The reason for which every call fails where there is no database. -/
def needsDatabase : String :=
  "this request needs a database (HAVING column under a global filter); use `tablesift run`"

/-- The store where there is no database. -/
def offline : Store where
  count _ := .error needsDatabase
  selectIds _ := .error needsDatabase

/-- The query of the records without a store. -/
def Loaded.compile (loaded : Loaded) : Except StoreError Query := do
  let (narrowed, _) ← (loaded.registry.narrow loaded.base loaded.request.filter).ask offline
  let ordered := loaded.registry.order narrowed loaded.request.sort
  -- The number of rows is not known, so the page is cut out of more rows than there can be.
  return paginate ordered loaded.request.page loaded.request.size maxUnsigned

/-- The line of a bound value, by its number. -/
def paramLine (value : Value) (number : Nat) : String :=
  "-- param " ++ toString number ++ ": " ++ value.display ++ "\n"

def sqlOutput (bound : Bound) : String :=
  let lines := (bound.params.zipIdx 1).map fun (value, number) => paramLine value number
  bound.text ++ "\n" ++ (if lines.isEmpty then "" else "\n" ++ String.join lines)

def jsonOutput (bound : Bound) : String :=
  let params := Json.array (bound.params.map Value.toJson)
  (Json.object [("params", params), ("sql", .string bound.text)]).compact ++ "\n"

def OutputFormat.print : OutputFormat → Bound → String
  | sql, bound => sqlOutput bound
  | json, bound => jsonOutput bound

def compile (settings : Settings) (loaded : Except LoadError Loaded) (dialect : Option Dialect)
    (output : OutputFormat) : Outcome :=
  match loaded with
  | .error error => .failed error.message
  | .ok loaded =>
    match loaded.compile with
    | .error error => .failed ("Compilation error: " ++ error.message)
    | .ok records => .printed (output.print (records.render (dialect.getD settings.dialect)))

/-- The database of a run: the one named on the command line, else that of the settings. -/
def databaseOf (settings : Settings) (named : Option String)
    (environment : String → Option String) : Except String String :=
  match named with
  | some path => .ok path
  | none =>
    match settings.resolvedPath environment with
    | .ok (some path) => .ok path
    | .ok none => .error "No database given: pass --db or set database.path"
    | .error error => .error ("Error resolving database path: " ++ error.message)

/-- Takes up a run as far as the database that it needs. -/
def run (settings : Settings) (loaded : Except LoadError Loaded) (named : Option String)
    (environment : String → Option String) : Except String (Loaded × String) := do
  let loaded ← loaded.mapError (·.message)
  return (loaded, ← databaseOf settings named environment)

variable {m : Type → Type} [Monad m]

/-- The values of the variables that the database path refers to. -/
def lookUp (around : Surroundings m) (settings : Settings) : m (String → Option String) := do
  let names := settings.databasePath.elim [] Template.names
  let values ← names.mapM fun name => return (name, ← around.environment name)
  return fun name => (values.lookup name).join

/-- What a command comes to with its settings; opening a database is left to `openDatabase`. -/
def Command.execute (around : Surroundings m) (openDatabase : Loaded → String → m Outcome)
    (settings : Settings) : Command → m Outcome
  | compile table params dialect output => do
    let loaded := load settings table params (← around.file table)
    return CommandLine.compile settings loaded dialect output
  | run table params database => do
    let loaded := load settings table params (← around.file table)
    match CommandLine.run settings loaded database (← lookUp around settings) with
    | .ok (loaded, path) => openDatabase loaded path
    | .error message => return .failed message

/-- What the program does with its arguments. -/
def perform (around : Surroundings m) (openDatabase : Loaded → String → m Outcome)
    (arguments : List String) : m Outcome := do
  match Invocation.read arguments with
  | .error refusal => return refusal.outcome
  | .ok invocation =>
    match ← invocation.config.elim (Settings.find around) (Settings.load around) with
    | .error error => return .failed ("Error loading settings: " ++ error.message)
    | .ok settings => invocation.command.execute around openDatabase settings

end GridQuery.CommandLine
