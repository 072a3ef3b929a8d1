import RequestRouting.CommandLine.Options
import RequestRouting.Request.Basic

/-!
# Commands

The commands of the command line, and how they are read from its arguments. The options in front
of a command are complete only after its own arguments are read.
-/

namespace RequestRouting
namespace CommandLine

/-- A header written `name=value`, where the name is not empty. -/
def header? (text : String) : Option (String × String) := do
  let (name, value) ← Text.cut? ['='] text.toList
  let name := Text.trim name
  if name.isEmpty then none
  return (String.ofList name, String.ofList (Text.trim value))

/-- The option that asks for help about a topic. -/
def helpOption (topic : Topic) : OptionSpec :=
  { long := "help", short := 'h', kind := .help topic, about := "Print help" }

/-- The options in front of the command. -/
def programOptions : List OptionSpec :=
  [{ long := "routes", short := 'r', kind := .value, valueName := "ROUTES",
     about := "Route table file (JSON) [env: ROUTE_TABLE=] [default: routes.json]",
     accepts := fun file => !file.isEmpty },
   { long := "verbose", short := 'v', kind := .flag, about := "Enable verbose output" },
   helpOption .program,
   { long := "version", short := 'V', kind := .version, about := "Print version" }]

/-- The options of the command that resolves a request. -/
def resolveOptions : List OptionSpec :=
  [{ long := "method", short := 'm', kind := .value, valueName := "METHOD",
     about := "HTTP method [default: GET]", accepts := fun name => (Method.parse? name).isSome },
   { long := "header", short := 'H', kind := .values, valueName := "HEADERS",
     about := "Request header as \x60name=value\x60; repeatable",
     accepts := fun text => (header? text).isSome },
   helpOption .resolve]

/-- What is to be done with a route table. -/
inductive Command where
  | resolve (request : Request)
  | tree
  | routes

/-- Reads the arguments of the command that resolves a request. -/
def readResolve (arguments : List String) : Except Stop Command := do
  let given ← readArguments resolveOptions 1 {} arguments
  let method := ((given.value? "method").bind Method.parse?).getD .get
  match given.operands with
  | [target] =>
    let headers := (given.values "header").filterMap header?
    return .resolve (headers.foldl (fun request (name, value) => request.withHeader name value)
      (.ofTarget method target))
  | _ => .error .invalid

/-- Reads the arguments of a command that has none but the option for help. -/
def readPlain (topic : Topic) (command : Command) (arguments : List String) :
    Except Stop Command := do
  let _ ← readArguments [helpOption topic] 0 {} arguments
  return command

/-- What the command that prints help ends with. -/
def helpStop : List String → Stop
  | [] => .help .program
  | ["resolve"] => .help .resolve
  | ["tree"] => .help .tree
  | ["routes"] => .help .routes
  | ["help"] => .help .help
  | _ => .invalid

/-- Reads a command and its arguments. -/
def readCommand (name : String) (arguments : List String) : Except Stop Command :=
  match name with
  | "resolve" => readResolve arguments
  | "tree" => readPlain .tree .tree arguments
  | "routes" => readPlain .routes .routes arguments
  | "help" => .error (helpStop arguments)
  | _ => .error .invalid

/-- A command, and the file of the route table if one is named. -/
structure Invocation where
  routes : Option String
  command : Command

/-- Reads all arguments. -/
def parse (arguments : List String) : Except Stop Invocation := do
  let (given, name, rest) ← readLeading programOptions {} arguments
  let command ← readCommand name rest
  return ⟨(← given.settle).value? "routes", command⟩

end CommandLine
end RequestRouting
