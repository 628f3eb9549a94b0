import TxGateway.Failure
import TxGateway.Schedule.Scope

namespace TxGateway.Verification

/-! # Verifying merkle roots

A batch of roots goes to every verifier at once, and the first to answer decides, whether it
confirms the batch or not, or answers with an error.
-/

/-- What a verifier answers, under its name. -/
structure Report where
  verifier : String
  reply : Reply BatchVerdict

/-- Asks the verifier at a position. -/
def ask (roots : List RootClaim) (deadline : Instant) (position : Nat) (verifier : String) :
    Activity (Option Report) := do
  let reply ← Activity.ask (.verify position roots) deadline
  return some ⟨verifier, reply.getD (.error .late)⟩

/-- The result that a report decides. -/
def verdict : Option Report → Except Failure Unit
  | none => .error (.verificationFailed "no verification service answered")
  | some ⟨verifier, .error e⟩ => .error (.verificationFailed s!"{verifier}: {e.message}")
  | some ⟨_, .ok v⟩ =>
    if v.allConfirmed then .ok () else .error (.rootsNotConfirmed v.unconfirmedRoots)

/-- Asks all verifiers about a batch. -/
def run (w : World) (start : Instant) (verifiers : List String) (roots : List RootClaim)
    (deadline : Instant) (policy : Stragglers) : Run (Except Failure Unit) :=
  if verifiers.isEmpty then Run.done (.error .noVerifiers) start
  else if roots.isEmpty then Run.done (.ok ()) start
  else
    let tasks := verifiers.mapIdx fun i name => ask roots deadline i name w start
    (Scope.first start deadline policy tasks).map fun a => verdict (a.map Arrival.value)

end TxGateway.Verification
