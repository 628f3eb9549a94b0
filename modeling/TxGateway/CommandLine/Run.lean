import TxGateway.CommandLine.Command
import TxGateway.Gateway.Session
import TxGateway.Http.Services
import TxGateway.Settings.Load

namespace TxGateway.CommandLine

/-! # Runs

A run of the program reads its arguments, loads the settings, builds a gateway and carries out one
command. The first of these that fails ends it.

* `Surroundings` is all that a run can see.
* `Report` is what it leaves: how it ended, and the requests that it sent.
-/

/-- What a run finds around it. -/
structure Surroundings where
  /-- The bytes of a file, `none` if there is no such file. -/
  file : String → Option (List UInt8)
  environment : String → Option String
  server : Http.Server
  /-- The time that probed miners are marked with. -/
  clock : Timestamp

/-- How a run ended. -/
inductive Ending where
  /-- No command was run. -/
  | stopped (why : Stop)
  /-- There are no settings to run a command with. -/
  | unloaded (why : LoadError)
  | failed (why : Failure)
  | printed (result : Document)
deriving DecidableEq

/-- The exit code. -/
def Ending.code : Ending → UInt32
  | .printed _ | .stopped (.enquiry _) => 0
  | .unloaded _ | .failed _ => 1
  | .stopped .misuse | .stopped (.badClaim _) => 2

structure Report where
  ending : Ending
  requests : List Http.Request
deriving DecidableEq

/-! ## Results -/

def broadcastResult (id : String) (first : Option String) : Document :=
  .record [("id", .text id), ("accepted", .bool true), ("first_provider", .ofOption .text first)]

def verifyResult (claims : List RootClaim) : Document :=
  .record [("roots", .integer claims.length), ("confirmed", .bool true)]

def minersResult (g : Gateway) : Document :=
  .record [("network", g.settings.network.toDocument), ("fee_unit", g.fee.toDocument),
    ("broadcast_miners", .list (g.miners.broadcast.map Miner.toDocument)),
    ("query_miners", .list (g.miners.query.map Miner.toDocument))]

/-! ## Commands -/

/-- Carries out a command with a gateway. Limits of time are those of the settings. -/
def Command.run (c : Command) (g : Gateway) (w : World) (start : Instant) :
    Run (Except Failure Document) :=
  match c with
  | .broadcast id hex =>
    (g.broadcast w start id hex (g.settings.limit .broadcast) {}).map fun o =>
      o.result.map fun _ => broadcastResult id o.latch.name?
  | .search id wanted fastest =>
    match Inclusion.parse? wanted with
    | none => Run.done (.error (.unknownInclusion (Inclusion.unknownMessage wanted))) start
    | some inclusion =>
      let look := if fastest then g.race else g.search
      (look w start id inclusion (g.settings.limit .query)).map fun r => r.map TxRecord.toDocument
  | .verify claims => (g.verify w start claims).map fun r => r.map fun _ => verifyResult claims
  | .miners => Run.done (.ok (minersResult g)) start

/-- What requests name as their sender. -/
def agent : String := s!"{programName}/{programVersion}"

/-- The calls that a step has made. -/
def callsOf {α : Type} (step : Run α) : List Call :=
  (step.calls ++ step.stragglers).map CallTrace.call

/-- Builds a gateway from settings, and carries out a command with it. -/
def runWith (around : Surroundings) (s : Settings) (c : Command) : Report :=
  let services := Http.Services.ofSettings s (some agent)
  let w := services.world around.server
  let built := Gateway.build w 0 around.clock s services.connections
  match built.result with
  | .error f => ⟨.failed f, (callsOf built).filterMap services.request?⟩
  | .ok g =>
    let step := c.run g w built.moment.instant
    let requests := (callsOf built ++ callsOf step).filterMap services.request?
    match step.result with
    | .error f => ⟨.failed f, requests⟩
    | .ok result => ⟨.printed result, requests⟩

/-- A run of the program. -/
def run (around : Surroundings) (arguments : List String) : Report :=
  match Invocation.ofArguments arguments with
  | .error stop => ⟨.stopped stop, []⟩
  | .ok i =>
    match Settings.loadFile around.environment (around.file i.settings) with
    | .error e => ⟨.unloaded e, []⟩
    | .ok s => runWith around s i.command

end TxGateway.CommandLine
