import PredictionMarket.CommandLine.Run

/-!
# The program

Reads the files that the arguments and the settings name, runs the command on them, and
prints the outcome. Failures and faults of usage go to the error stream.
-/

namespace PredictionMarket.CommandLine

/-- What a path leads to now. -/
def contentNow (path : String) : IO FileContent := do
  match ← (IO.FS.readFile path).toBaseIO with
  | .ok text => return .text text
  | .error (.noFileOrDirectory ..) => return .absent
  | .error (.inappropriateType ..) => return .absent
  | .error _ => return .unreadable

/-- The files at some paths, beside the files that are known. -/
def filesNow (known : Files) (paths : List String) : IO Files := do
  let found ← paths.mapM fun path => return (path, ← contentNow path)
  return fun path => (Dict.lookupEntry path found).getD (known path)

/-- Prints a fault of usage; help that was asked for is no error. -/
def report (fault : UsageFault) : IO UInt32 := do
  if fault.exitCode = 0 then IO.println fault.message else IO.eprintln fault.message
  return fault.exitCode.toUInt32

/-- What the system says when the file at a path is read. -/
def complaint (path : String) : IO String := do
  match ← (IO.FS.readFile path).toBaseIO with
  | .ok _ => return "cannot be read"
  | .error fault => return toString fault

/-- The cause of a failure. -/
def causeNow : Failure → IO String
  | .catalog (.unreadable path) | .settings (.unreadable path)
  | .invalidVariables (.unreadable path) => complaint path
  | .patternTooLarge => return "compiled pattern exceeds the size limit"
  | _ => return "unexpected syntax or type"

/-- Runs an invocation and prints its outcome. -/
def execute (invocation : Invocation) : IO UInt32 := do
  let selected ← IO.getEnv Settings.variableName
  let named ← filesNow (fun _ => .absent) invocation.paths
  let files ← filesNow named (invocation.catalogPath? named).toList
  let outcome := invocation.run .standard files selected
  IO.print outcome.output
  if let some failure := outcome.failure then
    IO.eprintln ("Error: " ++ failure.message (← causeNow failure))
  return outcome.exitCode.toUInt32

end PredictionMarket.CommandLine

/-- Runs the command that the arguments ask for. -/
def main (arguments : List String) : IO UInt32 :=
  match PredictionMarket.CommandLine.Invocation.ofArguments arguments with
  | .error fault => PredictionMarket.CommandLine.report fault
  | .ok invocation => PredictionMarket.CommandLine.execute invocation
