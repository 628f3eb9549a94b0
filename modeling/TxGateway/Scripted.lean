import TxGateway.Gateway.Session

namespace TxGateway

/-! # Scripted services

An outside that answers by a script: each service gives the same answers after the same time, and
some kinds of calls crash. Scripts stand in for services where none can be reached.
-/

namespace Scripted

/-- The reply to a submission or a quote that the script says nothing about. -/
def unscripted {α : Type} : Reply α := .error (.unreachable "mock response not scripted")

/-- The kinds of calls that a script can tell apart. -/
inductive CrashKind where
  | broadcast
  | query
  | quote
  | verify
deriving DecidableEq, Repr

def CrashKind.of : CallKind → CrashKind
  | .broadcast => .broadcast
  | .query => .query
  | .feeQuote | .policyQuote => .quote
  | .verify => .verify

/-- How long the calls of a service take, and which of them crash. -/
structure Pace where
  latency : Nat := 0
  crashes : List CrashKind := []

/-- A response at the pace of a service. -/
def Pace.respond {α : Type} (p : Pace) (kind : CallKind) (reply : Reply α) : Response α :=
  if p.crashes.contains (CrashKind.of kind) then .crash p.latency else .answer p.latency reply

structure MinerScript where
  submission : Reply Submission := unscripted
  status : Reply MinerSighting := .error .notFound
  fee : Reply Fee := unscripted
  pace : Pace := {}

structure OutletScript where
  name : String
  published : Reply String := unscripted
  found : Reply ChainSighting := .error .notFound
  pace : Pace := {}

structure VerifierScript where
  name : String
  verdict : Reply BatchVerdict := .ok ⟨.confirmed, []⟩
  pace : Pace := {}

/-- A miner's answer that takes a transaction. -/
def accepting (miner id : String) : Submission := ⟨id, miner ++ "-id", true, ""⟩

/-- A miner's answer that refuses a transaction. -/
def refusing (miner description : String) : Submission := ⟨"", miner ++ "-id", false, description⟩

end Scripted

open Scripted

/-- The scripts of all services. A family without a script is not connected. -/
structure Script where
  /-- The scripts of miners, by their names. -/
  miners : Option (List (String × MinerScript)) := none
  explorer : Option OutletScript := none
  secondaryExplorer : Option OutletScript := none
  nodeProxy : Option OutletScript := none
  verifiers : List VerifierScript := []

namespace Script

def miner (s : Script) (name : String) : MinerScript :=
  ((s.miners.getD []).lookup name).getD {}

def outlet (s : Script) : Outlet → Option OutletScript
  | .explorer => s.explorer
  | .secondaryExplorer => s.secondaryExplorer
  | .nodeProxy => s.nodeProxy

def connections (s : Script) : Connections where
  miners := s.miners.isSome
  explorer := s.explorer.map OutletScript.name
  secondaryExplorer := s.secondaryExplorer.map OutletScript.name
  nodeProxy := s.nodeProxy.map OutletScript.name
  verifiers := s.verifiers.map VerifierScript.name

/-- The outside that the scripts describe. -/
def world (s : Script) : World := fun _ c =>
  match c with
  | .submit m _ => (s.miner m.name).pace.respond c.kind (s.miner m.name).submission
  | .status m _ => (s.miner m.name).pace.respond c.kind (s.miner m.name).status
  | .quote _ m => (s.miner m.name).pace.respond c.kind (s.miner m.name).fee
  | .publish o _ =>
    match s.outlet o with
    | some script => script.pace.respond c.kind script.published
    | none => .silence
  | .find o _ =>
    match s.outlet o with
    | some script => script.pace.respond c.kind script.found
    | none => .silence
  | .verify i _ =>
    match s.verifiers[i]? with
    | some script => script.pace.respond c.kind script.verdict
    | none => .silence

end Script

end TxGateway
