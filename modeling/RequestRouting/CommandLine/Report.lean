import RequestRouting.CommandLine.Help
import RequestRouting.Regex.Standard
import RequestRouting.Table
import RequestRouting.Tree.Display

/-!
# Reports of the command line

What a command writes about a route table, and the exit code with which it ends.
-/

namespace RequestRouting
namespace CommandLine

/-- The end of a run: its exit code, and what is written to the output and as an error. -/
structure Report where
  exitCode : Nat
  output : String
  error : Option String

namespace Report

/-- A run that succeeds. -/
def ok (output : String) : Report := ⟨0, output, none⟩

/-- A run that fails with a message. -/
def failure (message : String) : Report := ⟨1, "", some ("Error: " ++ message)⟩

/-- What is written where the arguments are not read to their end. -/
def ofStop : Stop → Report
  | .help topic => .ok topic.text
  | .version => .ok versionLine
  | .invalid => ⟨2, "", some ("error: invalid arguments\n\n" ++ Topic.program.text)⟩

end Report

/-- The name of the part of a registry that answered. -/
def sourceName : MatchSource → String
  | .tree => "Tree"
  | .fallback => "Fallback"

/-- Describes a match: the route in one line, and each parameter in a line below it. -/
def describeMatch (found : RouteMatch) : String :=
  let params := found.params.entries.map fun (name, value) => "\n  " ++ name ++ " = " ++ value
  found.handler ++ " " ++ found.pattern ++ " (" ++ sourceName found.source ++ ")"
    ++ String.join params

/-- Reports the outcome of a lookup. -/
def reportResult (path : String) (result : MatchResult) : Report :=
  if result = .ambiguousPreflight then .ok "preflight matched several CORS routes\n"
  else match result.toExcept path with
    | .ok (some found) => .ok (describeMatch found ++ "\n")
    | .ok none => .ok ("no route for " ++ path ++ "\n")
    | .error error => .failure error.message

/-- The line of a registration: id, methods, pattern, handler and the part that finds it. -/
def registrationLine (registration : Registration) : String :=
  "\t".intercalate
    [registration.id.text, ",".intercalate (registration.methods.map Method.name),
      registration.pattern.text, registration.handler,
      if registration.inTree then "tree" else "fallback"] ++ "\n"

/-- Runs a command on a registry. -/
def runOn (registry : Registry) : Command → Report
  | .resolve request => reportResult request.path (registry.resolve request)
  | .tree => .ok registry.tree.display
  | .routes => .ok (String.join (registry.registrations.map registrationLine))

/-- Runs a command on the text of a route table, which was read from `file`. -/
def run (file text : String) (command : Command) : Report :=
  match RouteTable.parse? text with
  | none => .failure ("invalid route table " ++ file)
  | some table =>
    match table.toRegistry with
    | .error error => .failure error.message
    | .ok registry => runOn registry command

end CommandLine
end RequestRouting
