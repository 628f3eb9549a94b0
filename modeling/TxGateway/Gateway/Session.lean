import TxGateway.Gateway

namespace TxGateway

/-! # Sessions

A session is a gateway in use: steps follow each other on one clock, and calls that a step left open
run on during later ones.

* `Session.after` is a session when a step has been made.
* `Tally` counts the calls that have been made by now, by their kinds.
-/

/-- The kinds of calls that are counted. -/
inductive CallKind where
  | broadcast
  | query
  | feeQuote
  | policyQuote
  | verify
deriving DecidableEq, Repr

namespace CallKind

def all : List CallKind := [.broadcast, .query, .feeQuote, .policyQuote, .verify]

def name : CallKind → String
  | .broadcast => "broadcast"
  | .query => "query"
  | .feeQuote => "fee_quote"
  | .policyQuote => "policy_quote"
  | .verify => "verify"

end CallKind

def Call.kind : Call → CallKind
  | .submit .. | .publish .. => .broadcast
  | .status .. | .find .. => .query
  | .quote .merchant _ => .feeQuote
  | .quote .arc _ => .policyQuote
  | .verify .. => .verify

/-- Whom a call goes to. -/
inductive Addressee where
  | miner (name : String)
  | outlet (outlet : Outlet)
  | verifier (position : Nat)
deriving DecidableEq, Repr

def Call.addressee : Call → Addressee
  | .submit m _ | .status m _ | .quote _ m => .miner m.name
  | .publish o _ | .find o _ => .outlet o
  | .verify i _ => .verifier i

structure Session where
  gateway : Gateway
  clock : Instant
  /-- Calls that are over. -/
  calls : List CallTrace
  /-- Calls that earlier steps left open. -/
  stragglers : List CallTrace

namespace Session

/-- A session with a gateway that has just been built. -/
def start (g : Gateway) (build : Run (Except Failure Gateway)) : Session :=
  ⟨g, build.moment.instant, build.calls, build.stragglers⟩

/-- The session after a step. -/
def after {α : Type} (s : Session) (step : Run α) : Session where
  gateway := s.gateway
  clock := step.moment.instant
  calls := s.calls ++ s.stragglers.filter step.moment.isPast ++ step.calls
  stragglers := s.stragglers.filter (fun c => !step.moment.isPast c) ++ step.stragglers

/-- A step that only lets time pass. -/
def pause (s : Session) (duration : Nat) : Run Unit := ⟨(), ⟨s.clock + duration, false⟩, [], []⟩

/-- The calls that have been made by now. -/
def made (s : Session) : List CallTrace :=
  s.calls ++ s.stragglers.filter fun c => c.began ≤ s.clock

end Session

/-- How many calls were made. -/
structure Tally where
  /-- How many of each kind, kinds without calls left out. -/
  kinds : List (CallKind × Nat)
  /-- How many were answered. -/
  finished : Nat
  total : Nat
deriving DecidableEq, Repr

namespace Tally

/-- Counts the calls to an addressee. -/
def of (addressee : Addressee) (ended running : List CallTrace) : Tally :=
  let mine := fun c : CallTrace => c.call.addressee == addressee
  let ended := ended.filter mine
  let made := ended ++ running.filter mine
  { kinds := (CallKind.all.map fun k => (k, made.countP fun c => c.call.kind == k)).filter
      fun k => 0 < k.2
    finished := ended.countP fun c => c.fate == .answered
    total := made.length }

/-- Counts the calls of a session to an addressee. -/
def ofSession (s : Session) (addressee : Addressee) : Tally :=
  of addressee s.calls (s.stragglers.filter fun c => c.began ≤ s.clock)

end Tally

end TxGateway
