namespace TxGateway

/-! # Purposes

What providers are listed for: to broadcast a transaction, or to look one up.
-/

inductive Purpose where
  | broadcast
  | query
deriving DecidableEq, Repr

namespace Purpose

def name : Purpose → String
  | .broadcast => "broadcast"
  | .query => "query"

/-- The purpose in a diagnostic. -/
def inspect : Purpose → String
  | .broadcast => "Broadcast"
  | .query => "Query"

end Purpose

end TxGateway
