import TxGateway.Failure
import TxGateway.Operation.Search
import TxGateway.Provider.Wording
import TxGateway.Schedule.Latch
import TxGateway.Schedule.Scope

namespace TxGateway.Broadcast

/-! # Broadcasting

A transaction goes to every provider at once, and all of them are waited for. One acceptance is
enough. A refusal is no failure if its words say that the provider has the transaction already; if
they leave it open, a search for the transaction decides.

* `attempt` is what happens at one provider.
* `verdict` is the result of all reports: success, or one entry a provider in the order in which
  they ended.
-/

/-- What is broadcast, and within which limits. -/
structure Request where
  id : String
  hex : String
  deadline : Instant
  /-- The providers that are searched after a questionable refusal, in order. -/
  fallback : List Provider
  /-- How long such a search may take. -/
  fallbackLimit : Nat

/-- What one provider's task ends with. -/
structure Report where
  provider : String
  /-- The words of the refusal, if it counts. -/
  failure : Option String
deriving DecidableEq, Repr

def Report.isAcceptance (r : Report) : Bool := r.failure.isNone

/-- The words of a refusal, unless the transaction turns out to be known. -/
def settle (request : Request) (e : ProviderError) : Activity (Option String) := do
  match Wording.classify e.message with
  | .alreadyKnown => return none
  | .failure => return some e.message
  | .questionable =>
    let now ← Activity.now
    let deadline := min request.deadline (now + request.fallbackLimit)
    match ← Search.inOrder request.id .mempool deadline request.fallback with
    | some _ => return none
    | none => return some e.message

/-- Submits to one provider and reports. -/
def attempt (request : Request) (p : Provider) : Activity (Option Report) := do
  let reply ← p.submit request.id request.hex request.deadline
  match reply.getD (.error .late) with
  | .ok () => return some ⟨p.name, none⟩
  | .error e =>
    let failure ← settle request e
    return some ⟨p.name, failure⟩

/-- The entry of a provider that failed. -/
def Report.entry? (r : Report) : Option String :=
  r.failure.map fun words => s!"{r.provider}: {words}"

/-- Success if one report is an acceptance. -/
def verdict (reports : List Report) : Except Failure Unit :=
  if reports.any Report.isAcceptance then .ok ()
  else .error (.broadcastFailed ("; ".intercalate (reports.filterMap Report.entry?)))

/-- The acceptances among reports, in their order. -/
def acceptances (reports : List (Arrival Report)) : List (Arrival String) :=
  (reports.filter fun a => a.value.isAcceptance).map fun a => ⟨a.instant, a.value.provider⟩

/-- The result of a broadcast, and the latch that its acceptances were recorded in. -/
structure Outcome where
  result : Except Failure Unit
  latch : Latch

/-- Broadcasts to providers, one at least, and records acceptances in a latch. -/
def run (w : World) (start : Instant) (providers : List Provider) (request : Request)
    (latch : Latch) : Run Outcome :=
  match providers with
  | [] => Run.done ⟨.error (.noProviders .broadcast), latch⟩ start
  | providers =>
    let tasks := providers.map fun p => attempt request p w start
    (Scope.drain start tasks).map fun reports =>
      ⟨verdict (reports.map Arrival.value), latch.recordAll (acceptances reports)⟩

end TxGateway.Broadcast
