import TxGateway.CommandLine.Run
import TxGateway.Http.Recording

namespace TxGateway.Program

/-! # The program

Reads the settings and the variables that they refer to, and a recording of the outside from
standard input; prints the result of a command, or why there is none.
-/

open CommandLine

/-- The bytes of a file, `none` if it cannot be read. -/
def readFile? (path : String) : IO (Option (List UInt8)) := do
  try
    return some (← IO.FS.readBinFile path).toList
  catch _ =>
    return none

/-- The variables of the environment that a text refers to. -/
def variablesOf (bytes : List UInt8) : IO (List (String × String)) := do
  let names := Reference.names ((Text.Utf8.decode? bytes).getD "")
  names.filterMapM fun name => do
    return (← IO.getEnv name).map fun value => (name, value)

/-- What a call with these arguments finds around it. -/
def surroundings (arguments : List String) (recording : Http.Recording) : IO Surroundings := do
  let path := match Invocation.ofArguments arguments with
    | .ok i => i.settings
    | .error _ => ""
  let bytes ← readFile? path
  let values ← variablesOf (bytes.getD [])
  return {
    file := fun _ => bytes
    environment := fun name => values.lookup name
    server := Http.Route.server recording.routes
    clock := recording.clock }

/-- Prints how a run ended. -/
def tell : Ending → IO Unit
  | .printed result => IO.println (Document.Json.pretty result)
  | .stopped (.enquiry .version) => IO.println s!"{programName} {programVersion}"
  | .stopped (.enquiry .help) => IO.println usage
  | .stopped .misuse => IO.eprintln usage
  | .stopped (.badClaim reason) => IO.eprintln s!"error: {reason.message}"
  | .unloaded why => IO.eprintln s!"Error: {why.inspect}"
  | .failed why => IO.eprintln s!"Error: {why.inspect}"

end TxGateway.Program

def main (arguments : List String) : IO UInt32 := do
  let input ← (← IO.getStdin).readToEnd
  let some recording := TxGateway.Http.Recording.read? input
    | IO.eprintln "error: the recording cannot be read"
      return 1
  let around ← TxGateway.Program.surroundings arguments recording
  let report := TxGateway.CommandLine.run around arguments
  TxGateway.Program.tell report.ending
  return report.ending.code
