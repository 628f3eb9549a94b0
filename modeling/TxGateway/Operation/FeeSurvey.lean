import TxGateway.Failure
import TxGateway.Schedule.Scope

namespace TxGateway.FeeSurvey

/-! # Surveying fees

Before a gateway starts to work, every miner of the broadcast list is asked for its fee. Miners that
do not name a valid fee in time are dropped, and the cheapest fee becomes that of the gateway.
-/

/-- What a survey leaves. -/
structure Selection where
  broadcast : List Miner
  query : List Miner
  fee : Fee
deriving DecidableEq

/-- The miner after a probe that showed a fee, or none. -/
def probed (m : Miner) (fee : Option Fee) (clock : Timestamp) : Miner :=
  { m with fee, probedAt := some clock }

/-- The fee in a reply, if it is valid. -/
def validFee? : Option (Reply Fee) → Option Fee
  | some (.ok fee) => if fee.isValid then some fee else none
  | _ => none

/-- Asks a miner for its fee in its own dialect; the miner is reported with its position. -/
def probe (clock : Timestamp) (deadline : Instant) (position : Nat) (m : Miner) :
    Activity (Option (Nat × Miner)) := do
  let reply ← Activity.ask (.quote m.dialect m) deadline
  return some (position, probed m (validFee? reply) clock)

/-- The miners that have a fee, in the order of their positions. -/
def survivors (reports : List (Nat × Miner)) : List Miner :=
  ((reports.mergeSort fun a b => a.1 ≤ b.1).map Prod.snd).filter fun m => m.fee.isSome

/-- The selection from what was reported. -/
def select (useQuotedFees : Bool) (query : List Miner) (reports : List (Nat × Miner)) :
    Except Failure Selection :=
  match survivors reports, query with
  | [], _ => .error .noBroadcastMiners
  | _, [] => .error .noQueryMiners
  | broadcast, query =>
    let fee := if useQuotedFees then (Fee.lowest? (broadcast.filterMap Miner.fee)).getD Fee.standard
      else Fee.standard
    .ok { broadcast, query, fee }

/-- Asks all miners of the broadcast list. -/
def run (w : World) (start : Instant) (clock : Timestamp) (limit : Nat) (useQuotedFees : Bool)
    (broadcast query : List Miner) : Run (Except Failure Selection) :=
  let tasks := broadcast.mapIdx fun i m => probe clock (start + limit) i m w start
  (Scope.drain start tasks).map fun reports =>
    select useQuotedFees query (reports.map Arrival.value)

end TxGateway.FeeSurvey
