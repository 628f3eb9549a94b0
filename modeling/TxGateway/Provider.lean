import TxGateway.Provider.Call
import TxGateway.Schedule.Activity
import TxGateway.Text.Quoted
import TxGateway.Transaction

namespace TxGateway

/-! # Providers

A provider takes part in an operation under its name. What it answers is brought into one form:
a submission is accepted or refused, and a look-up gives a record that names the provider.

* A miner's refusal is an error in the miner's own words.
* An answer that names another transaction is an error; one that names none is taken for the
  transaction that was asked.
-/

inductive Provider where
  | miner (miner : Miner)
  | outlet (outlet : Outlet) (name : String)
deriving DecidableEq

namespace Provider

def name : Provider → String
  | .miner m => m.name
  | .outlet _ name => name

def family : Provider → Family
  | .miner _ => .miner
  | .outlet o _ => o.family

/-- The provider in a diagnostic. -/
def inspect (p : Provider) : String :=
  "Provider \x7b family: " ++ p.family.inspect ++ ", name: " ++ Text.quoted p.name ++ " \x7d"

/-! ## Reading answers -/

/-- Refuses an answer about another transaction. -/
def checkId (expected actual : String) : Reply Unit :=
  if TxId.agrees expected actual then .ok () else .error (.wrongId expected actual)

/-- Whether a miner took a transaction. -/
def verdictOf (s : Submission) : Reply Unit :=
  if s.accepted then .ok () else .error (.rejected s.description)

/-- The record of a miner's account. -/
def recordOfMiner (provider : String) (s : MinerSighting) : Reply TxRecord :=
  if s.found then
    .ok {
      blockHash := s.blockHash
      blockHeight := s.blockHeight
      confirmations := s.confirmations
      id := s.id
      minerId := s.minerId
      provider
      merkleProof := s.merkleProof }
  else .error .notFound

/-- The record of another provider's account. -/
def recordOfChain (provider : String) (s : ChainSighting) : TxRecord where
  blockHash := s.blockHash
  blockHeight := s.blockHeight
  confirmations := s.confirmations
  id := s.id
  provider

/-- A record, if it is about the transaction `id`. -/
def about (id : String) (r : TxRecord) : Reply TxRecord := do
  checkId id r.id
  return r

/-! ## Calls -/

/-- Hands a transaction to the provider; there is no reply when the deadline passes first. -/
def submit (p : Provider) (id hex : String) (deadline : Instant) :
    Activity (Option (Reply Unit)) :=
  match p with
  | .miner m => do
    let reply ← Activity.ask (.submit m hex) deadline
    return reply.map fun r => r.bind verdictOf
  | .outlet o _ => do
    let reply ← Activity.ask (.publish o hex) deadline
    return reply.map fun r => r.bind (checkId id)

/-- Asks the provider for a transaction; there is no reply when the deadline passes first. -/
def lookUp (p : Provider) (id : String) (deadline : Instant) :
    Activity (Option (Reply TxRecord)) :=
  match p with
  | .miner m => do
    let reply ← Activity.ask (.status m id) deadline
    return reply.map fun r => (r.bind (recordOfMiner m.name)).bind (about id)
  | .outlet o name => do
    let reply ← Activity.ask (.find o id) deadline
    return reply.map fun r => (r.map (recordOfChain name)).bind (about id)

end Provider

end TxGateway
