import TxGateway.CommandLine.Arguments

namespace TxGateway.CommandLine

/-! # Commands

What a caller can ask for in one call of the program, and how arguments say it.

* `Command` has one constructor a command.
* `Invocation.ofArguments` reads the arguments of a call: those of every call, the name of a command
  and the arguments of that command.
-/

def programName : String := "chainstate"

def programVersion : String := "0.1.0"

/-- How the program is called. -/
def usage : String :=
  "Usage: chainstate [--config FILE] [--log-level LEVEL] COMMAND\n\n" ++
    "Commands:\n" ++
    "  broadcast --id ID --hex HEX\n" ++
    "  query --id ID --required-in LEVEL [--fastest]\n" ++
    "  verify --root ROOT:HEIGHT ...\n" ++
    "  miners"

inductive Command where
  | broadcast (id hex : String)
  /-- Looks a transaction up. The wanted inclusion is read only when the command is run. -/
  | search (id wanted : String) (fastest : Bool)
  | verify (claims : List RootClaim)
  | miners
deriving DecidableEq, Repr

/-- A call of the program. -/
structure Invocation where
  /-- The path of the settings. -/
  settings : String
  logLevel : String
  command : Command
deriving DecidableEq, Repr

/-! ## Parameters -/

def helpParameter : Parameter := { name := "help", letter := 'h', usage := .enquiry .help }

/-- A path is not empty. -/
def checkPath (path : String) : Except Stop Unit :=
  if path.isEmpty then .error .misuse else .ok ()

def checkClaim (text : String) : Except Stop Unit :=
  match RootClaim.parse text with
  | .ok _ => .ok ()
  | .error e => .error (.badClaim e)

/-- The parameters of every call. -/
def generalParameters : List Parameter := [
  { name := "config", letter := 'c', usage := .single, check := checkPath },
  { name := "log-level", letter := 'l', usage := .single },
  helpParameter,
  { name := "version", letter := 'V', usage := .enquiry .version }]

def broadcastParameters : List Parameter := [
  { name := "id", usage := .single },
  { name := "hex", usage := .single },
  helpParameter]

def queryParameters : List Parameter := [
  { name := "id", usage := .single },
  { name := "required-in", usage := .single },
  { name := "fastest", usage := .switch },
  helpParameter]

def verifyParameters : List Parameter := [
  { name := "root", usage := .repeated, check := checkClaim },
  helpParameter]

/-! ## Commands -/

namespace Command

/-- The names of commands, the one that explains the others last. -/
def names : List String := ["broadcast", "query", "verify", "miners", "help"]

def readClaims (texts : List String) : Except Stop (List RootClaim) :=
  texts.mapM fun text => (RootClaim.parse text).mapError .badClaim

/-- What to explain: everything, or one command. -/
def explain : List String → Stop
  | [] => .enquiry .help
  | [name] => if names.contains name then .enquiry .help else .misuse
  | _ => .misuse

/-- Reads the arguments behind the name of a command. -/
def ofArguments (name : String) (arguments : List String) : Except Stop Command :=
  match name with
  | "broadcast" => do
    let r ← Reading.readAll broadcastParameters arguments
    return .broadcast (← r.value "id") (← r.value "hex")
  | "query" => do
    let r ← Reading.readAll queryParameters arguments
    return .search (← r.value "id") (← r.value "required-in") (r.has "fastest")
  | "verify" => do
    let r ← Reading.readAll verifyParameters arguments
    if !r.has "root" then throw .misuse
    return .verify (← readClaims (r.values "root"))
  | "miners" => do
    let _ ← Reading.readAll [helpParameter] arguments
    return .miners
  | "help" => .error (explain arguments)
  | _ => .error .misuse

end Command

/-- Reads the arguments of a call. The command's own arguments are read before the last value in
front of it is looked at. -/
def Invocation.ofArguments (arguments : List String) : Except Stop Invocation := do
  match ← Reading.read generalParameters Command.names {} arguments with
  | (_, none) => throw .misuse
  | (r, some (name, rest)) =>
    let command ← Command.ofArguments name rest
    let r ← r.settle
    return ⟨r.valueOr "config" "config.toml", r.valueOr "log-level" "info", command⟩

end TxGateway.CommandLine
