import GridQuery.CommandLine.Arguments

/-! The help texts of the command line, in a short and a long form. -/
namespace GridQuery.CommandLine

def programPurpose : String := "tablesift - compile paginated-table requests to parameterized SQL"

def Topic.purpose : Topic → String
  | program => programPurpose
  | compile => "Print the records query for a request without running it"
  | run => "Run a request against a SQLite database and print counts and rows"
  | help => "Print this message or the help of the given subcommand(s)"

def Topic.usage : Topic → String
  | program => "tablesift [OPTIONS] <COMMAND>"
  | compile => "tablesift compile [OPTIONS] --table <TABLE>"
  | run => "tablesift run [OPTIONS] --table <TABLE>"
  | help => "tablesift help [COMMAND]..."

structure HelpEntry where
  flag : String
  purpose : String
  notes : List String := []
  /-- The values that can be given, with what each means. -/
  choices : List (String × String) := []

/-- Whether the entry says more in the long form. -/
def HelpEntry.isLonger (entry : HelpEntry) : Bool := !entry.choices.isEmpty

def Opt.help : Opt → HelpEntry
  | config =>
    { flag := "    --config <CONFIG>"
      purpose := "Settings file (defaults to tablesift.toml, $TABLESIFT_CONFIG, " ++
        "then the user config dir)" }
  | table => { flag := "-t, --table <TABLE>", purpose := "Path to the table definition (.toml)" }
  | params =>
    { flag := "-p, --params <PARAMS>"
      purpose := "Request parameters as JSON"
      notes := ["default: \x7b\x7d"] }
  | dialect =>
    { flag := "-d, --dialect <DIALECT>"
      purpose := "SQL dialect to generate (defaults to the configured dialect)"
      notes := ["possible values: postgres, duckdb, mysql, sqlite"] }
  | output =>
    { flag := "-o, --output <OUTPUT>"
      purpose := "Output format"
      notes := ["default: sql"]
      choices :=
        [("sql", "SQL followed by its parameters"), ("json", "JSON object with sql and params")] }
  | database =>
    { flag := "    --db <DB>"
      purpose := "SQLite database file (defaults to database.path from settings)" }

def Topic.options : Topic → List Opt
  | program => [.config]
  | compile => [.config, .table, .params, .dialect, .output]
  | run => [.config, .table, .database, .params]
  | help => []

def padded (width : Nat) (text : String) : String :=
  text ++ String.ofList (List.replicate (width - text.length) ' ')

def HelpEntry.shortNotes (entry : HelpEntry) : List String :=
  let choices := if entry.choices.isEmpty then [] else
    ["possible values: " ++ ", ".intercalate (entry.choices.map (·.1))]
  (entry.notes ++ choices).map fun note => "[" ++ note ++ "]"

def HelpEntry.short (width : Nat) (entry : HelpEntry) : String :=
  let text := " ".intercalate (entry.purpose :: entry.shortNotes)
  "  " ++ padded width entry.flag ++ "  " ++ text ++ "\n"

def margin : String := "          "

/-- An entry on lines of its own. -/
def HelpEntry.long (entry : HelpEntry) : String :=
  let width := (entry.choices.map (·.1.length)).foldl max 0
  let choices := if entry.choices.isEmpty then "" else
    "\n" ++ margin ++ "Possible values:\n" ++ String.join (entry.choices.map fun (name, purpose) =>
      margin ++ "- " ++ padded (width + 1) (name ++ ":") ++ " " ++ purpose ++ "\n")
  let notes := String.join (entry.notes.map fun note =>
    margin ++ "\n" ++ margin ++ "[" ++ note ++ "]\n")
  "  " ++ entry.flag ++ "\n" ++ margin ++ entry.purpose ++ "\n" ++ choices ++ notes

/-- The entry of help itself, which mentions the other form where there is one. -/
def helpEntry (isLonger isLong : Bool) : HelpEntry :=
  let pointer :=
    if !isLonger then ""
    else if isLong then " (see a summary with '-h')"
    else " (see more with '--help')"
  { flag := "-h, --help", purpose := "Print help" ++ pointer }

def commandList : String :=
  "Commands:\n" ++ String.join ([("compile", Topic.compile), ("run", .run), ("help", .help)].map
    fun (name, topic) => "  " ++ padded 9 name ++ topic.purpose ++ "\n") ++ "\n"

def Topic.helpText (topic : Topic) (isLong : Bool) : String :=
  let options := topic.options.map Opt.help
  let isLonger := options.any (·.isLonger)
  let version : List HelpEntry :=
    if topic = .program then [{ flag := "-V, --version", purpose := "Print version" }] else []
  let entries := options ++ [helpEntry isLonger isLong] ++ version
  let width := (entries.map (·.flag.length)).foldl max 0
  let list :=
    if isLong && isLonger then "\n".intercalate (entries.map (·.long))
    else String.join (entries.map (·.short width))
  topic.purpose ++ "\n\nUsage: " ++ topic.usage ++ "\n\n" ++
    (if topic = .program then commandList else "") ++ "Options:\n" ++ list

end GridQuery.CommandLine
