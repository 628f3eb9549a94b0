namespace TxGateway

/-! # Provider errors

Why a call to a provider has not given an answer that counts. The message carries the provider's
own words, because what becomes of a refused submission depends on them.
-/

inductive ProviderError where
  /-- No response came. -/
  | unreachable (reason : String)
  /-- The response had a status that is no success. -/
  | status (code : Nat) (body : String)
  /-- The provider does not know the transaction. -/
  | notFound
  /-- The provider refused the transaction. -/
  | rejected (reason : String)
  /-- The answer is about another transaction. -/
  | wrongId (expected actual : String)
  /-- The response could not be read. -/
  | unreadable (reason : String)
  /-- No answer came in time. -/
  | late
  /-- The settings do not allow for the provider. -/
  | misconfigured (reason : String)
deriving DecidableEq, Repr

namespace ProviderError

def message : ProviderError → String
  | .unreachable reason => s!"Network error: {reason}"
  | .status code body => s!"HTTP {code}: {body}"
  | .notFound => "Transaction not found"
  | .rejected reason => s!"Rejected: {reason}"
  | .wrongId expected actual => s!"Transaction id mismatch: expected {expected}, got {actual}"
  | .unreadable reason => s!"Decode error: {reason}"
  | .late => "Timed out"
  | .misconfigured reason => s!"Configuration error: {reason}"

end ProviderError

end TxGateway
