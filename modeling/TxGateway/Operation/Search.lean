import TxGateway.Provider

namespace TxGateway.Search

/-! # Searching in order

Providers are asked one after the other, and the first record that reaches the wanted inclusion is
the answer. The search ends when the deadline passes during a look-up; an error of a provider only
leads on to the next.
-/

/-- Asks providers in order for the transaction `id`. -/
def inOrder (id : String) (wanted : Inclusion) (deadline : Instant) :
    List Provider → Activity (Option TxRecord)
  | [] => return none
  | p :: rest => do
    match ← p.lookUp id deadline with
    | none => return none
    | some (.error _) => inOrder id wanted deadline rest
    | some (.ok r) => if wanted.metBy id r then return some r else inOrder id wanted deadline rest

end TxGateway.Search
