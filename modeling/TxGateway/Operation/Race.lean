import TxGateway.Provider
import TxGateway.Schedule.Scope

namespace TxGateway.Race

/-! # Asking all at once

Every provider is asked at the same time, and the first record to arrive that reaches the wanted
inclusion is the answer. A provider whose answer does not count delivers nothing.
-/

/-- Asks one provider, and delivers a record that counts. -/
def ask (id : String) (wanted : Inclusion) (deadline : Instant) (p : Provider) :
    Activity (Option TxRecord) := do
  match ← p.lookUp id deadline with
  | some (.ok r) => return if wanted.metBy id r then some r else none
  | _ => return none

/-- Asks all providers and waits for the first record. -/
def run (w : World) (start : Instant) (providers : List Provider) (id : String)
    (wanted : Inclusion) (deadline : Instant) (policy : Stragglers) : Run (Option TxRecord) :=
  let tasks := providers.map fun p => ask id wanted deadline p w start
  (Scope.first start deadline policy tasks).map fun a => a.map Arrival.value

end TxGateway.Race
