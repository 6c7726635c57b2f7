import GridQuery.Sql.Dialect

/-! The arguments of the command line. -/
namespace GridQuery.CommandLine

open Sql

inductive OutputFormat where
  | sql
  | json
  deriving DecidableEq, Repr

inductive Command where
  | compile (table params : String) (dialect : Option Dialect) (output : OutputFormat)
  | run (table params : String) (database : Option String)
  deriving DecidableEq, Repr

structure Invocation where
  config : Option String
  command : Command
  deriving DecidableEq, Repr

/-- The subjects that help can be asked about. -/
inductive Topic where
  | program
  | compile
  | run
  | help
  deriving DecidableEq, Repr

/-- What arguments come to when they give no command. -/
inductive Refusal where
  | usage (problem : String)
  | help (topic : Topic) (isLong : Bool)
  | nothing
  | version
  deriving DecidableEq, Repr

/-- The options, all with a value. -/
inductive Opt where
  | config
  | table
  | params
  | dialect
  | output
  | database
  deriving DecidableEq, Repr

def Opt.long : Opt → String
  | config => "config"
  | table => "table"
  | params => "params"
  | dialect => "dialect"
  | output => "output"
  | database => "db"

def Opt.letter? : Opt → Option Char
  | table => some 't'
  | params => some 'p'
  | dialect => some 'd'
  | output => some 'o'
  | config | database => none

def OutputFormat.ofName? : String → Option OutputFormat
  | "sql" => some .sql
  | "json" => some .json
  | _ => none

/-- Whether an option takes a value. Paths are not empty, and choices are spelled exactly. -/
def Opt.accepts (option : Opt) (value : String) : Bool :=
  match option with
  | config | table | database => !value.isEmpty
  | params => true
  | dialect => (Dialect.ofName? value).isSome
  | output => (OutputFormat.ofName? value).isSome

abbrev Given := List (Opt × String)

/-- Gives an option a value, which it may have once. -/
def give (given : Given) (option : Opt) (value : String) : Except Refusal Given :=
  if !option.accepts value then
    .error (.usage ("invalid value '" ++ value ++ "' for '--" ++ option.long ++ "'"))
  else if (given.lookup option).isSome then
    .error (.usage ("the argument '--" ++ option.long ++ "' cannot be used multiple times"))
  else .ok ((option, value) :: given)

/-- Whether an argument can be the value of the option before it; a lone hyphen can. -/
def isValue (argument : String) : Bool := !argument.startsWith "-" || argument = "-"

/-- What one argument is, for a command with some options. -/
inductive Reading where
  | valued (option : Opt) (value : String)
  | awaiting (option : Opt)
  | stop (refusal : Refusal)
  | word (word : String)
  /-- Two hyphens, behind which there are words only. -/
  | wordsOnly

def unexpected (argument : String) : Refusal :=
  .usage ("unexpected argument '" ++ argument ++ "' found")

def Opt.unvalued (option : Opt) : Refusal :=
  .usage ("a value is required for '--" ++ option.long ++ "' but none was supplied")

/-- Reads an argument that begins with two hyphens. -/
def readLong (topic : Topic) (options : List Opt) (body : List Char) : Reading :=
  let name := String.ofList (body.takeWhile (· ≠ '='))
  match options.find? (·.long = name), body.dropWhile (· ≠ '=') with
  | some option, [] => .awaiting option
  | some option, _ :: value => .valued option (String.ofList value)
  | none, [] =>
    if name = "help" then .stop (.help topic true)
    else if name = "version" ∧ topic = .program then .stop .version
    else .stop (unexpected ("--" ++ name))
  | none, _ => .stop (unexpected ("--" ++ name))

/-- Reads an argument that begins with a hyphen and a letter; the value may follow the letter. -/
def readShort (topic : Topic) (options : List Opt) (letter : Char) (rest : List Char) : Reading :=
  match options.find? (·.letter? = some letter), rest with
  | some option, [] => .awaiting option
  | some option, '=' :: value => .valued option (String.ofList value)
  | some option, value => .valued option (String.ofList value)
  | none, _ =>
    if letter = 'h' then .stop (.help topic false)
    else if letter = 'V' ∧ topic = .program then .stop .version
    else .stop (unexpected (String.ofList ['-', letter]))

def readArgument (topic : Topic) (options : List Opt) (argument : String) : Reading :=
  match argument.toList with
  | ['-', '-'] => .wordsOnly
  | '-' :: '-' :: body => readLong topic options body
  | '-' :: letter :: rest => readShort topic options letter rest
  | _ => .word argument

/-- Reads options up to the first word; the word, if there is one, comes with the arguments behind
it. -/
def readOptions (topic : Topic) (options : List Opt) :
    Given → List String → Except Refusal (Given × Option (String × List String))
  | given, [] => .ok (given, none)
  | given, argument :: rest =>
    match readArgument topic options argument with
    | .stop refusal => .error refusal
    | .word word => .ok (given, some (word, rest))
    -- No command takes words, so that anything behind the two hyphens is too much.
    | .wordsOnly =>
      match rest with
      | [] => .ok (given, none)
      | word :: _ => .error (unexpected word)
    | .valued option value => do readOptions topic options (← give given option value) rest
    | .awaiting option =>
      match rest with
      | value :: rest =>
        if isValue value then do readOptions topic options (← give given option value) rest
        else .error option.unvalued
      | [] => .error option.unvalued

/-- Reads the options of a command, which takes no words. -/
def readCommand (topic : Topic) (options : List Opt) (arguments : List String) :
    Except Refusal Given := do
  match ← readOptions topic options [] arguments with
  | (given, none) => return given
  | (_, some (word, _)) => .error (unexpected word)

def tableOf (given : Given) : Except Refusal String :=
  match given.lookup .table with
  | some table => .ok table
  | none => .error (.usage "the following required arguments were not provided: --table <TABLE>")

/-- The request parameters, empty ones without the option. -/
def paramsOf (given : Given) : String := (given.lookup .params).getD "\x7b\x7d"

def compileOf (given : Given) : Except Refusal Command := do
  return .compile (← tableOf given) (paramsOf given)
    ((given.lookup .dialect).bind Dialect.ofName?)
    (((given.lookup .output).bind OutputFormat.ofName?).getD .sql)

def runOf (given : Given) : Except Refusal Command := do
  return .run (← tableOf given) (paramsOf given) (given.lookup .database)

def Topic.ofWord? : String → Option Topic
  | "compile" => some .compile
  | "run" => some .run
  | "help" => some .help
  | _ => none

/-- Help about the subject that the words name. -/
def readHelp : List String → Refusal
  | [] => .help .program true
  | [word] =>
    match Topic.ofWord? word with
    | some topic => .help topic true
    | none => .usage ("unrecognized subcommand '" ++ word ++ "'")
  | _ :: word :: _ => .usage ("unrecognized subcommand '" ++ word ++ "'")

/-- Reads the arguments. -/
def Invocation.read (arguments : List String) : Except Refusal Invocation := do
  match ← readOptions .program [.config] [] arguments with
  | ([], none) => throw .nothing
  | (_, none) => throw (.usage "'tablesift' requires a subcommand but one was not provided")
  | (before, some (word, rest)) =>
    -- The settings file may be named before the command and after it; the later one counts.
    let invocation (given : Given) (command : Command) : Invocation :=
      ⟨(given.lookup .config).or (before.lookup .config), command⟩
    match word with
    | "compile" =>
      let given ← readCommand .compile [.config, .table, .params, .dialect, .output] rest
      return invocation given (← compileOf given)
    | "run" =>
      let given ← readCommand .run [.config, .table, .database, .params] rest
      return invocation given (← runOf given)
    | "help" => throw (readHelp rest)
    | _ => throw (.usage ("unrecognized subcommand '" ++ word ++ "'"))

end GridQuery.CommandLine
