import TxGateway.Provider
import TxGateway.Settings

namespace TxGateway

/-! # The roster

Which providers take part in an operation. The roster is made anew for each operation from the
settings at its start, so that settings that change count from the next operation on.

* `Roster.providers` lists them: miners in the order of their list, then the explorer, the secondary
  explorer for look-ups only, and the node proxy.
-/

/-- The services that the gateway is connected to. A family without a connection takes no part. -/
structure Connections where
  miners : Bool := false
  /-- The name of the explorer. -/
  explorer : Option String := none
  secondaryExplorer : Option String := none
  nodeProxy : Option String := none
  /-- The names of the verifiers. -/
  verifiers : List String := []
deriving DecidableEq, Repr

/-- The name under which an outlet is connected. -/
def Connections.outlet (c : Connections) : Outlet → Option String
  | .explorer => c.explorer
  | .secondaryExplorer => c.secondaryExplorer
  | .nodeProxy => c.nodeProxy

/-- The miners of a gateway, fixed when it is built. -/
structure MinerLists where
  broadcast : List Miner
  query : List Miner
  /-- The miners have been probed. Others never take part. -/
  probed : Bool
deriving DecidableEq, Repr

/-- The miners for a purpose. -/
def MinerLists.list (m : MinerLists) : Purpose → List Miner
  | .broadcast => m.broadcast
  | .query => m.query

namespace Roster

/-- Whether settings let miners take part. -/
def admitsMiners (s : Settings) (c : Connections) : Bool :=
  s.network.servesMiners && !s.isExcluded .miner && c.miners

/-- Whether settings let an outlet take part in operations for a purpose. -/
def admits (s : Settings) (p : Purpose) (o : Outlet) : Bool :=
  !s.isExcluded o.family &&
    match o with
    | .explorer => true
    | .secondaryExplorer => p == .query
    | .nodeProxy => s.network.servesMiners && s.nodeProxyCredential?.isSome

/-- The provider of an outlet, if it takes part. -/
def outlet (s : Settings) (c : Connections) (p : Purpose) (o : Outlet) : List Provider :=
  if admits s p o then ((c.outlet o).map (Provider.outlet o)).toList else []

/-- The miners that take part. -/
def miners (s : Settings) (m : MinerLists) (c : Connections) (p : Purpose) : List Provider :=
  if admitsMiners s c && m.probed then (m.list p).map Provider.miner else []

/-- The providers that take part in an operation, in order. -/
def providers (s : Settings) (m : MinerLists) (c : Connections) (p : Purpose) : List Provider :=
  miners s m c p ++ outlet s c p .explorer ++ outlet s c p .secondaryExplorer ++
    outlet s c p .nodeProxy

end Roster

end TxGateway
