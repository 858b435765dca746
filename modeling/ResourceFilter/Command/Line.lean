import ResourceFilter.Command.Arguments
import ResourceFilter.Command.Task
import ResourceFilter.Filter.Outline

/-! # The command line

`Invocation.ofArguments` reads the arguments of the program and `run` carries them out: it gives
what the program writes and the code it ends with, from the arguments and what is piped in. A
failure ends with code 1, a command line that is not understood with code 2.
-/

set_option autoImplicit false

namespace ResourceFilter.Command

/-- What to do with a filter. -/
inductive Task where
  /-- Reads the filter, and shows its canonical text or its outline. -/
  | check (canonical : Bool)
  /-- Shows the tokens of the filter. -/
  | tokens
  /-- Shows the query of the filter. -/
  | query (table flavour : String) (mappings : List String) (strict pretty : Bool)
  deriving DecidableEq, Repr

/-- A command line that is understood. -/
structure Invocation where
  task : Task
  mode : Mode
  /-- The text of the filter, unless it is to be read from what is piped in. -/
  filter : Option String
  deriving DecidableEq, Repr

/-- The names of the commands. -/
def commandNames : List String := ["check", "tokens", "sql", "help"]

/-- Options that every level of the command line has. -/
def commonOptions : List OptionSpec :=
  [⟨some 'v', "verbose", .flag⟩, ⟨some 'h', "help", .stop .help⟩]

/-- Options in front of the name of a command. -/
def globalOptions : List OptionSpec :=
  ⟨some 'V', "version", .stop .version⟩ :: commonOptions

/-- The option that reads patch paths. -/
def patchOption : OptionSpec := ⟨none, "patch", .flag⟩

/-- Options of the command that checks a filter. -/
def checkOptions : List OptionSpec :=
  patchOption :: ⟨none, "canonical", .flag⟩ :: commonOptions

/-- Options of the command that shows tokens. -/
def tokensOptions : List OptionSpec :=
  patchOption :: commonOptions

/-- Options of the command that shows a query. -/
def queryOptions : List OptionSpec :=
  patchOption :: ⟨some 't', "table", .value⟩ :: ⟨some 'd', "dialect", .value⟩ ::
    ⟨some 'm', "map", .values⟩ :: ⟨none, "strict", .flag⟩ :: ⟨some 'p', "pretty", .flag⟩ ::
    commonOptions

namespace Invocation

/-- The invocation of a task with the options given for it. -/
def ofGiven (task : Task) (given : Given) (filter : Option String) : Invocation :=
  ⟨task, Mode.ofSwitch (given.has "patch"), filter⟩

/-- Reads the arguments of a command. -/
def ofCommand (command : String) (arguments : List String) : Except Stop Invocation :=
  match command with
  | "check" => do
    let (given, filter) ← readArguments checkOptions arguments
    return ofGiven (.check (given.has "canonical")) given filter
  | "tokens" => do
    let (given, filter) ← readArguments tokensOptions arguments
    return ofGiven .tokens given filter
  | "sql" => do
    let (given, filter) ← readArguments queryOptions arguments
    let table := (given.value? "table").getD "users"
    let flavour := (given.value? "dialect").getD "postgres"
    return ofGiven (.query table flavour (given.values "map") (given.has "strict")
      (given.has "pretty")) given filter
  | "help" =>
    match arguments with
    | [] => .error .help
    | [name] => .error (if name ∈ commandNames then .help else .misuse)
    | _ => .error .misuse
  | _ => .error .misuse

/-- Reads the arguments of the program. -/
def ofArguments (arguments : List String) : Except Stop Invocation := do
  let (_, rest) ← readOptions globalOptions [] none arguments
  match rest with
  | [] => .error .misuse
  | command :: arguments => ofCommand command arguments

end Invocation

/-- What the program writes, and the code it ends with. -/
structure Outcome where
  code : UInt8
  output : String
  errors : String
  deriving DecidableEq, Repr

/-- How the program is called. -/
def usage : String :=
  "Usage: scimfilter [-v|--verbose] [-V|--version] [-h|--help] <COMMAND>\n\n" ++
  "  check [FILTER] [--patch] [--canonical]\n" ++
  "  tokens [FILTER] [--patch]\n" ++
  "  sql [FILTER] [-t|--table TABLE] [-d|--dialect DIALECT] [-m|--map ATTR=COLUMN]...\n" ++
  "      [--strict] [--patch] [-p|--pretty]\n\n" ++
  "Without FILTER, the filter is read from standard input.\n"

/-- What is done about a command line that is not carried out. -/
def Stop.outcome : Stop → Outcome
  | misuse => ⟨2, "", usage⟩
  | help => ⟨0, usage, ""⟩
  | version => ⟨0, "scimfilter 0.1.0\n", ""⟩

namespace Invocation

/-- The text of the filter. Without one among the arguments it is what is piped in; a terminal pipes
nothing in. -/
def filterText (invocation : Invocation) (input : Option ByteArray) : Except Failure String :=
  match invocation.filter, input with
  | some text, _ => .ok text
  | none, none => .error .noFilter
  | none, some bytes =>
    match String.fromUTF8? bytes with
    | some text => .ok text
    | none => .error .undecodableInput

/-- What a task shows of a filter. -/
def result (invocation : Invocation) (text : String) : Except Failure String :=
  match invocation.task with
  | .check canonical => do
    let filter ← check invocation.mode text
    return (if canonical then filter.canonical else filter.outline) ++ "\n"
  | .tokens => do
    let (tokens, place) ← tokens invocation.mode text
    return tokenTable tokens place
  | .query table flavour mappings strict pretty => do
    let query ← QueryRequest.query ⟨text, invocation.mode, table, flavour, mappings, strict⟩
    return (if pretty then query.prettyJson else query.json) ++ "\n"

/-- Carries an invocation out. -/
def run (invocation : Invocation) (input : Option ByteArray) : Outcome :=
  match invocation.filterText input >>= invocation.result with
  | .ok output => ⟨0, output, ""⟩
  | .error failure => ⟨1, "", failure.message ++ "\n"⟩

end Invocation

/-- What the program does with its arguments and with what is piped in. -/
def run (arguments : List String) (input : Option ByteArray) : Outcome :=
  match Invocation.ofArguments arguments with
  | .ok invocation => invocation.run input
  | .error stop => stop.outcome

end ResourceFilter.Command
