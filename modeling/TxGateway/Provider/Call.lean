import TxGateway.Fee
import TxGateway.Merkle
import TxGateway.Miner
import TxGateway.Provider.Answer
import TxGateway.Provider.Error
import TxGateway.Provider.Family

namespace TxGateway

/-! # Calls

What the gateway asks of the outside, and how the outside responds.

* `Call` has one constructor a kind of request, and `Call.Answer` is the type of its answers.
* `Response` is an answer after some time, a crash of the task that called, or silence.
* `World` gives the response to each call, which may depend on the instant at which it is made.
-/

/-- Milliseconds since the clock was started. -/
abbrev Instant : Type := Nat

/-- A provider of which there is one. -/
inductive Outlet where
  | explorer
  | secondaryExplorer
  | nodeProxy
deriving DecidableEq, Repr

def Outlet.family : Outlet → Family
  | .explorer => .explorer
  | .secondaryExplorer => .secondaryExplorer
  | .nodeProxy => .nodeProxy

inductive Call where
  /-- A transaction is handed to a miner. -/
  | submit (miner : Miner) (hex : String)
  /-- A miner is asked for a transaction. -/
  | status (miner : Miner) (id : String)
  /-- A miner is asked for its fee, in one of the two dialects. -/
  | quote (dialect : MinerDialect) (miner : Miner)
  /-- A transaction is handed to another provider. -/
  | publish (outlet : Outlet) (hex : String)
  /-- Another provider is asked for a transaction. -/
  | find (outlet : Outlet) (id : String)
  /-- The verifier at a position is asked about a batch of roots. -/
  | verify (position : Nat) (roots : List RootClaim)
deriving DecidableEq

/-- What a call is answered with. -/
@[reducible] def Call.Answer : Call → Type
  | .submit .. => Submission
  | .status .. => MinerSighting
  | .quote .. => Fee
  | .publish .. => String
  | .find .. => ChainSighting
  | .verify .. => BatchVerdict

/-- The result of a call that was answered. -/
abbrev Reply (α : Type) : Type := Except ProviderError α

inductive Response (α : Type) where
  /-- The call is answered so many milliseconds later. -/
  | answer (delay : Nat) (reply : Reply α)
  /-- The task that called ends so many milliseconds later, without a word. -/
  | crash (delay : Nat)
  /-- Nothing happens, ever. -/
  | silence

/-- How the outside responds to every call at every instant. -/
def World : Type := Instant → (c : Call) → Response c.Answer

end TxGateway
