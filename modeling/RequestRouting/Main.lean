import RequestRouting.CommandLine.Report

/-!
# Main program

Reads a route table from a file and runs one command on it.
-/

open RequestRouting.CommandLine

/-- The file that is read if neither the arguments nor the environment name one. -/
def defaultTable : String := "routes.json"

/-- Runs the command that the arguments ask for. -/
def report (arguments : List String) : IO Report := do
  match parse arguments with
  | .error stop => return .ofStop stop
  | .ok ⟨routes, command⟩ =>
    let file := routes.getD ((← IO.getEnv "ROUTE_TABLE").getD defaultTable)
    match ← (IO.FS.readFile file).toBaseIO with
    | .ok text => return run file text command
    | .error _ => return .failure ("failed to read route table " ++ file)

def main (arguments : List String) : IO UInt32 := do
  let report ← report arguments
  IO.print report.output
  if let some message := report.error then IO.eprintln message
  return report.exitCode.toUInt32
