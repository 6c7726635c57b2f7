import GridQuery.Json.Record
import GridQuery.Sql.Dialect
import GridQuery.Surroundings
import GridQuery.Template
import GridQuery.Text.Blank
import GridQuery.Toml.Document

/-! Settings: the defaults for compiling requests and the database, read from a TOML file that is
looked for in several places. -/
namespace GridQuery

open Sql

/-- The settings, each with its default. -/
structure Settings where
  dialect : Dialect := .postgres
  /-- The primary key of definitions that name none. -/
  primaryKey : String := "id"
  /-- The page size of requests that name none. -/
  pageSize : Nat := 10
  /-- The path of the database, with references to environment variables. -/
  databasePath : Option String := none
  deriving DecidableEq, Repr

/-- Settings that cannot be worked with. -/
inductive InvalidSettings where
  | emptyPrimaryKey
  | zeroPageSize
  deriving DecidableEq, Repr

def InvalidSettings.message : InvalidSettings → String
  | emptyPrimaryKey => "query.primary_key must not be empty"
  | zeroPageSize => "query.default_page_size must be greater than zero"

/-- Why there are no settings. -/
inductive SettingsError where
  | fileNotFound (path : String)
  | unreadable (fault : FileFault)
  | unparsable
  | missingVariable (missing : Template.MissingVariable)
  | invalid (settings : InvalidSettings)
  deriving DecidableEq, Repr

def SettingsError.message : SettingsError → String
  | fileNotFound path => "Config file not found: " ++ path
  | unreadable fault => "Failed to read config file: " ++ fault.message
  | unparsable => "Failed to parse config file: no settings in TOML"
  | missingVariable missing => missing.message
  | invalid settings => "Invalid configuration: " ++ settings.message

namespace Settings

/-- The settings of a value. Members that are not known are passed over. -/
def ofJson? (json : Json) : Option Settings := do
  let sections ← json.fields? Json.leniently false ["query", "database"]
  let part? (name : String) := sections.withDefault name (.object []) some
  let query ← (← part? "query").fields? Json.leniently false
    ["dialect", "primary_key", "default_page_size"]
  let database ← (← part? "database").fields? Json.leniently false ["path"]
  let dialects := Dialect.all.map fun dialect => (dialect.name, dialect)
  return {
    dialect := ← query.withDefault "dialect" .postgres (Json.choice? Json.leniently dialects)
    primaryKey := ← query.withDefault "primary_key" "id" Json.text?
    pageSize := ← query.withDefault "default_page_size" 10 Json.natural?
    databasePath := ← database.withDefault "path" none fun path => (Json.text? path).map some }

/-- Refuses a blank primary key first, and then pages without rows. -/
def validate (settings : Settings) : Except InvalidSettings Settings :=
  if Text.isBlank settings.primaryKey then .error .emptyPrimaryKey
  else if settings.pageSize = 0 then .error .zeroPageSize
  else .ok settings

def ofToml (text : String) : Except SettingsError Settings :=
  match (Toml.read? text).bind ofJson? with
  | some settings => settings.validate.mapError .invalid
  | none => .error .unparsable

def ofFile (path : String) : Except FileFault String → Except SettingsError Settings
  | .ok content => ofToml content
  | .error fault => .error (if fault.isAbsent then .fileNotFound path else .unreadable fault)

/-- The variable that can name the settings file. -/
def pathVariable : String := "TABLESIFT_CONFIG"

/-- The settings file in the current directory. -/
def localPath : String := "tablesift.toml"

/-- The settings file in the user's configuration directory. -/
def userPath (directory : String) : String := directory ++ "/tablesift/config.toml"

variable {m : Type → Type} [Monad m]

/-- Reads the settings of a file that has to be there. -/
def load (around : Surroundings m) (path : String) : m (Except SettingsError Settings) := do
  return ofFile path (← around.file path)

/-- The settings of the first of these files that is there; without one the defaults count. -/
def loadFirst (around : Surroundings m) : List String → m (Except SettingsError Settings)
  | [] => return .ok {}
  | path :: rest => do
    match ofFile path (← around.file path) with
    | .error (.fileNotFound _) => loadFirst around rest
    | settings => return settings

/-- Looks for settings: in the file that the environment names, then in the current directory, then
in the user's directory. -/
def find (around : Surroundings m) : m (Except SettingsError Settings) := do
  match ← around.environment pathVariable with
  | some path => load around path
  | none => loadFirst around (localPath :: (← around.configDirectory).toList.map userPath)

/-- The path of the database where the environment is as given, if the settings name one. -/
def resolvedPath (settings : Settings) (environment : String → Option String) :
    Except SettingsError (Option String) :=
  match settings.databasePath with
  | none => .ok none
  | some path => (Template.expand environment path).map some |>.mapError .missingVariable

end Settings

end GridQuery
