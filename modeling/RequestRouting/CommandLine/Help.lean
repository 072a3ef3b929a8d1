import RequestRouting.CommandLine.Arguments

/-!
# Help

The texts that describe the program and its commands: what it does, how it is called, and a line
for each command, operand and option, with the descriptions in one column.
-/

namespace RequestRouting
namespace CommandLine

/-- The name under which the program is called. -/
def programName : String := "oxide-route-check"

/-- The line that tells the version. -/
def versionLine : String := programName ++ " 0.1.0\n"

/-- What a command does. -/
def Topic.about : Topic → String
  | program => "Inspect route tables and resolve requests against them"
  | resolve => "Resolve one request"
  | tree => "Print the pattern tree"
  | routes => "List registered routes"
  | help => "Print this message or the help of the given subcommand(s)"

/-- How a command is called. -/
def Topic.usage : Topic → String
  | program => "[OPTIONS] <COMMAND>"
  | resolve => "resolve [OPTIONS] <TARGET>"
  | tree => "tree"
  | routes => "routes"
  | help => "help [COMMAND]..."

/-- The operands of a command, each with its description. -/
def Topic.operands : Topic → List (String × String)
  | resolve => [("<TARGET>", "Request target, path plus optional query string")]
  | help => [("[COMMAND]...", "Print help for the subcommand(s)")]
  | _ => []

/-- The options of a command. -/
def Topic.options : Topic → List OptionSpec
  | program => programOptions
  | resolve => resolveOptions
  | tree => [helpOption .tree]
  | routes => [helpOption .routes]
  | help => []

/-- The commands that are listed under a topic. -/
def Topic.commands : Topic → List (String × String)
  | program =>
    [("resolve", Topic.resolve.about), ("tree", Topic.tree.about),
      ("routes", Topic.routes.about), ("help", Topic.help.about)]
  | _ => []

/-- An option with its description. -/
def OptionSpec.described (spec : OptionSpec) : String × String :=
  let value := if spec.valueName.isEmpty then "" else " <" ++ spec.valueName ++ ">"
  ("-" ++ String.ofList [spec.short] ++ ", --" ++ spec.long ++ value, spec.about)

/-- A heading and a line for each entry, or nothing if there are none. -/
def listing? (heading : String) (entries : List (String × String)) : Option String :=
  let width := (entries.map (·.1.length)).foldl max 0
  let line := fun (entry : String × String) =>
    let blanks := String.ofList (List.replicate (width + 2 - entry.1.length) ' ')
    "\n  " ++ entry.1 ++ blanks ++ entry.2
  if entries.isEmpty then none else some (heading ++ ":" ++ String.join (entries.map line))

/-- The help about a topic. -/
def Topic.text (topic : Topic) : String :=
  let listings := [listing? "Commands" topic.commands, listing? "Arguments" topic.operands,
    listing? "Options" (topic.options.map OptionSpec.described)].filterMap id
  "\n\n".intercalate
    (topic.about :: ("Usage: " ++ programName ++ " " ++ topic.usage) :: listings) ++ "\n"

end CommandLine
end RequestRouting
