import TxGateway.Http.Mining
import TxGateway.Http.NodeProxy
import TxGateway.Roster

namespace TxGateway.Http

/-! # Services over HTTP

The services that settings name, as an outside of a gateway. They are fixed when the gateway is
built: settings that are put in later do not move them. A service whose address `Url.parse?` does not
read, such as one of the scheme `https`, is out of reach: its exchanges are there, but no server gets
their requests.

* `Services.exchange?` is the exchange of a call.
* `Services.world` is the outside when a server answers the requests.
-/

/-- Asks a verifier about a batch of roots. -/
def verify (v : Verifier) (roots : List RootClaim) : Exchange BatchVerdict :=
  Exchange.json
    ((Draft.post (Url.join v.url "/api/v1/chain/merkleroot/verify")
      (.list (roots.map RootClaim.toDocument))).withHeader "authorization" v.token.bearer)
    BatchVerdict.ofDocument?

structure Services where
  /-- The network whose paths explorers are asked under. -/
  network : Network
  explorer : Endpoint
  secondaryExplorer : Option Endpoint
  /-- The address of the node proxy, and the key for it. -/
  nodeProxy : Option (String × Secret)
  verifiers : List Verifier
  /-- What requests name as their sender. -/
  agent : Option String := none

namespace Services

/-- The names under which the outlets are known. -/
def outletName : Outlet → String
  | .explorer => "explorer"
  | .secondaryExplorer => "secondary_explorer"
  | .nodeProxy => "node_proxy"

/-- The services that settings name. A node proxy without a key is none. -/
def ofSettings (s : Settings) (agent : Option String) : Services where
  network := s.network
  explorer := s.explorer
  secondaryExplorer := s.secondaryExplorer
  nodeProxy := s.nodeProxy.bind fun e => e.credential?.map fun key => (e.url, key)
  verifiers := s.verifiers
  agent

/-- What a gateway is connected to through the services. -/
def connections (s : Services) : Connections where
  miners := true
  explorer := some (outletName .explorer)
  secondaryExplorer := s.secondaryExplorer.map fun _ => outletName .secondaryExplorer
  nodeProxy := s.nodeProxy.map fun _ => outletName .nodeProxy
  verifiers := s.verifiers.map Verifier.url

/-- Names the sender in the request of an exchange. -/
def signed {α : Type} (s : Services) (x : Exchange α) : Exchange α :=
  { x with draft := x.draft.withHeader? "user-agent" s.agent }

/-- The exchange of a call, if there is a service for it. -/
def exchange? (s : Services) : (c : Call) → Option (Exchange c.Answer)
  | .submit m hex => some (s.signed (Mining.submit m hex))
  | .status m id => some (s.signed (Mining.status m id))
  | .quote dialect m => some (s.signed (Mining.quote dialect m))
  | .publish .explorer hex => some (s.signed (Explorer.publish s.explorer s.network hex))
  | .publish .secondaryExplorer hex =>
    s.secondaryExplorer.map fun e => s.signed (Explorer.publish e s.network hex)
  | .publish .nodeProxy hex =>
    s.nodeProxy.map fun (url, key) => s.signed (NodeProxy.publish url key hex)
  | .find .explorer id => some (s.signed (Explorer.find s.explorer s.network id))
  | .find .secondaryExplorer id =>
    s.secondaryExplorer.map fun e => s.signed (Explorer.find e s.network id)
  | .find .nodeProxy id => s.nodeProxy.map fun (url, key) => s.signed (NodeProxy.find url key id)
  | .verify i roots => s.verifiers[i]?.map fun v => s.signed (verify v roots)

/-- The request of a call, if there is one to send. -/
def request? (s : Services) (c : Call) : Option Request :=
  (s.exchange? c).bind fun x => x.draft.request?

/-- The outside in which a server answers every request at once. -/
def world (s : Services) (server : Server) : World := fun _ c =>
  match s.exchange? c with
  | some x => .answer 0 (x.run server)
  | none => .silence

end Services

end TxGateway.Http
