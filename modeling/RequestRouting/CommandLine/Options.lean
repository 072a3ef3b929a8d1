import RequestRouting.Text.Cut

/-!
# Options of the command line

Options are written `--name value`, `--name=value`, `-n value`, `-nvalue` or `-n=value`, and short
options without a value can share one hyphen. The arguments are read from left to right, and the
first of them that is wrong, or that asks for help or for the version, ends the reading. A value
in an argument of its own is looked at when the next option or operand comes, or at the end.
-/

namespace RequestRouting
namespace CommandLine

/-- What can be asked for help about. -/
inductive Topic where
  | program
  | resolve
  | tree
  | routes
  | help

/-- What ends the reading of arguments early. -/
inductive Stop where
  | help (topic : Topic)
  | version
  | invalid

/-- What an option stands for. -/
inductive OptionKind where
  /-- No value. It is given once. -/
  | flag
  /-- One value. It is given once. -/
  | value
  /-- One value each time it is given. -/
  | values
  | help (topic : Topic)
  | version

/-- An option that a command knows. -/
structure OptionSpec where
  long : String
  short : Char
  kind : OptionKind
  /-- The name of its value in the help. -/
  valueName : String := ""
  about : String
  /-- Whether a text is a value of the option. -/
  accepts : String → Bool := fun _ => true

/-- What has been read: options with their values, operands, and an option whose value is, or will
be, an argument of its own and has not been looked at. -/
structure Given where
  options : List (String × String) := []
  operands : List String := []
  pending : Option (OptionSpec × Option String) := none

namespace Given

/-- Adds an option with its value. -/
def add (spec : OptionSpec) (value : String) (given : Given) : Except Stop Given :=
  let again := given.options.any (·.1 == spec.long)
  let repeatable := match spec.kind with
    | .values => true
    | _ => false
  if (again && !repeatable) || !spec.accepts value then .error .invalid
  else .ok { given with options := given.options ++ [(spec.long, value)] }

/-- Adds the option that waits, which needs its value now. -/
def settle (given : Given) : Except Stop Given :=
  match given.pending with
  | none => .ok given
  | some (_, none) => .error .invalid
  | some (spec, some value) => { given with pending := none }.add spec value

/-- Reads an option, with the value that is part of the same argument if there is one. -/
def addOption (spec : OptionSpec) (attached : Option String) (given : Given) :
    Except Stop Given := do
  match spec.kind, attached with
  | .value, some value | .values, some value => (← given.settle).add spec value
  | .value, none | .values, none => return { ← given.settle with pending := some (spec, none) }
  | .flag, none => (← given.settle).add spec ""
  | .help topic, none =>
    let _ ← given.settle
    .error (.help topic)
  | .version, none =>
    let _ ← given.settle
    .error .version
  | _, some _ => .error .invalid

/-- Reads what follows two hyphens. -/
def addLong (specs : List OptionSpec) (text : List Char) (given : Given) : Except Stop Given :=
  let (name, attached) := match Text.cut? ['='] text with
    | some (name, value) => (name, some (String.ofList value))
    | none => (text, none)
  match specs.find? (·.long.toList == name) with
  | some spec => given.addOption spec attached
  | none => .error .invalid

/-- Reads what follows one hyphen: options without values, and at most one with a value, which
takes the rest of the text. -/
def addShort (specs : List OptionSpec) : List Char → Given → Except Stop Given
  | [], given => .ok given
  | c :: cs, given =>
    match specs.find? (·.short == c) with
    | none => .error .invalid
    | some spec =>
      match spec.kind with
      | .value | .values =>
        given.addOption spec (match cs with
          | [] => none
          | '=' :: value => some (String.ofList value)
          | value => some (String.ofList value))
      | _ => do addShort specs cs (← given.addOption spec none)

/-- Reads an argument that is no option: the value that an option waits for, or an operand, of
which there may be up to `most`. -/
def addPlain (most : Nat) (argument : String) (given : Given) : Except Stop Given :=
  match given.pending with
  | some (spec, none) => .ok { given with pending := some (spec, some argument) }
  | _ => do
    let given ← given.settle
    if given.operands.length < most then
      return { given with operands := given.operands ++ [argument] }
    else .error .invalid

/-- Reads an argument that is an option. -/
def addArgument (specs : List OptionSpec) (argument : String) (given : Given) :
    Except Stop Given :=
  match argument.toList with
  | '-' :: '-' :: text => given.addLong specs text
  | '-' :: text => given.addShort specs text
  | _ => .error .invalid

/-- The value of an option. -/
def value? (name : String) (given : Given) : Option String :=
  (given.options.find? (·.1 == name)).map (·.2)

/-- The values of an option. -/
def values (name : String) (given : Given) : List String :=
  (given.options.filter (·.1 == name)).map (·.2)

end Given

/-- Whether an argument is an option or the mark `--` that ends the options. -/
def isOption (argument : String) : Bool :=
  match argument.toList with
  | '-' :: _ :: _ => true
  | _ => false

/-- Reads the arguments of a command, which are options and up to `most` operands in any order.
All arguments after the mark `--` are operands. -/
def readArguments (specs : List OptionSpec) (most : Nat) :
    Given → List String → Except Stop Given
  | given, [] => given.settle
  | given, "--" :: rest => do
    let given ← given.settle
    if given.operands.length + rest.length ≤ most then
      return { given with operands := given.operands ++ rest }
    else .error .invalid
  | given, argument :: rest => do
    if isOption argument then readArguments specs most (← given.addArgument specs argument) rest
    else readArguments specs most (← given.addPlain most argument) rest

/-- Reads the options in front of a command, whose name and arguments are left. -/
def readLeading (specs : List OptionSpec) :
    Given → List String → Except Stop (Given × String × List String)
  | _, [] | _, "--" :: _ => .error .invalid
  | given, argument :: rest => do
    if isOption argument then readLeading specs (← given.addArgument specs argument) rest
    else match given.pending with
      | some (_, none) => readLeading specs (← given.addPlain 0 argument) rest
      | _ => return (given, argument, rest)

end CommandLine
end RequestRouting
