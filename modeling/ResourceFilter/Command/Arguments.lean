import ResourceFilter.Text.Split

/-! # Options of a command line

Options are written behind one dash by their letter, or behind two by their name. Letters without a
value may stand together behind one dash. A value follows as the next argument or is attached:
behind an equals sign, or directly behind a letter. Two dashes alone end the options. Only options
that say so may be given more than once.
-/

set_option autoImplicit false

namespace ResourceFilter.Command

/-- Why a command line is not carried out. -/
inductive Stop where
  /-- It is not one that the program understands. -/
  | misuse
  | help
  | version
  deriving DecidableEq, Repr

/-- What an option asks for. -/
inductive OptionKind where
  | flag
  | value
  | values
  /-- Ends the reading of the command line at once. -/
  | stop (reason : Stop)
  deriving DecidableEq, Repr

/-- An option of a command. -/
structure OptionSpec where
  letter : Option Char
  name : String
  kind : OptionKind
  deriving DecidableEq, Repr

/-- The options that were given, by name, in order; a flag has an empty value. -/
abbrev Given := List (String × String)

namespace Given

/-- Whether an option was given. -/
def has (given : Given) (name : String) : Bool :=
  (given.lookup name).isSome

/-- The value of an option that may be given once. -/
def value? (given : Given) (name : String) : Option String :=
  given.lookup name

/-- The values of an option that may be given several times. -/
def values (given : Given) (name : String) : List String :=
  (given.filter fun entry => entry.1 = name).map Prod.snd

/-- One more option, unless it may not be given again. -/
def add (given : Given) (spec : OptionSpec) (value : String) : Except Stop Given :=
  if given.has spec.name ∧ spec.kind ≠ .values then .error .misuse
  else .ok (given ++ [(spec.name, value)])

end Given

/-- Reads the letters behind a dash. The option whose value is still to come is named as well. -/
def readLetters (specs : List OptionSpec) (given : Given) :
    List Char → Except Stop (Given × Option OptionSpec)
  | [] => .ok (given, none)
  | letter :: rest => do
    match specs.find? fun spec => spec.letter = some letter with
    | none => .error .misuse
    | some spec =>
      match spec.kind, rest with
      | .stop reason, _ => .error reason
      | .flag, _ => readLetters specs (← given.add spec "") rest
      | _, [] => .ok (given, some spec)
      | _, '=' :: value => .ok (← given.add spec (String.ofList value), none)
      | _, value => .ok (← given.add spec (String.ofList value), none)

/-- Reads what stands behind two dashes. -/
def readName (specs : List OptionSpec) (given : Given) (text : List Char) :
    Except Stop (Given × Option OptionSpec) := do
  let (name, attached) :=
    match Text.splitFirst? '=' text with
    | some (name, value) => (name, some (String.ofList value))
    | none => (text, none)
  match specs.find? fun spec => spec.name.toList = name with
  | none => .error .misuse
  | some spec =>
    match spec.kind, attached with
    | .stop reason, none => .error reason
    | .flag, none => .ok (← given.add spec "", none)
    | .stop _, some _ | .flag, some _ => .error .misuse
    | _, some value => .ok (← given.add spec value, none)
    | _, none => .ok (given, some spec)

/-- Reads options up to the first argument that is none, and gives the arguments from there on. An
option that waits for its value takes the next argument, provided that is not an option itself. -/
def readOptions (specs : List OptionSpec) (given : Given) :
    Option OptionSpec → List String → Except Stop (Given × List String)
  | none, [] => .ok (given, [])
  | some _, [] => .error .misuse
  | waiting, argument :: rest => do
    match waiting, argument.toList with
    | some _, '-' :: _ :: _ => .error .misuse
    | some spec, _ => readOptions specs (← given.add spec argument) none rest
    | none, ['-', '-'] => .ok (given, argument :: rest)
    | none, '-' :: '-' :: name => do
      let (given, waiting) ← readName specs given name
      readOptions specs given waiting rest
    | none, '-' :: letter :: letters => do
      let (given, waiting) ← readLetters specs given (letter :: letters)
      readOptions specs given waiting rest
    | none, _ => .ok (given, argument :: rest)

/-- Reads the arguments of a command that takes one argument besides its options, or none. -/
def readArguments (specs : List OptionSpec) (arguments : List String) :
    Except Stop (Given × Option String) := do
  let (given, rest) ← readOptions specs [] none arguments
  match rest with
  | [] | ["--"] => return (given, none)
  | ["--", argument] => return (given, some argument)
  | "--" :: _ => .error .misuse
  | argument :: rest =>
    let (given, rest) ← readOptions specs given none rest
    match rest with
    | [] | ["--"] => return (given, some argument)
    | _ => .error .misuse

end ResourceFilter.Command
