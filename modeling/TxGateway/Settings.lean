import TxGateway.Miner
import TxGateway.Network
import TxGateway.Provider.Family
import TxGateway.Purpose

namespace TxGateway

/-! # Settings

What a caller decides about the gateway: the network, the families that are left out, time limits,
and where the providers are. Every setting has a value that stands for its absence.

* `Settings.miners` is the list of miners for a purpose, the built-in one unless the settings have
  their own.
* `Settings.limit` is a time limit in milliseconds.
* `Settings.nodeProxyCredential?` is what a node proxy needs to take part.
-/

/-- What becomes of the calls that are still open when the first answer has decided. -/
inductive Stragglers where
  /-- They run on. -/
  | detach
  /-- They are broken off. -/
  | abort
deriving DecidableEq, Repr, Inhabited

/-- The address of a provider, and the key for it. -/
structure Endpoint where
  url : String
  apiKey : Option Secret := none
deriving DecidableEq, Repr

namespace Endpoint

/-- The explorer that is asked where none is named. -/
def publicExplorer : Endpoint := ⟨"https://api.whatsonchain.com/v1/bsv", none⟩

/-- The key, if it can be used. -/
def credential? (e : Endpoint) : Option Secret := Secret.usable? e.apiKey

end Endpoint

/-- A service that verifies merkle roots. -/
structure Verifier where
  url : String
  token : Secret
deriving DecidableEq, Repr

/-- The miners where the settings name none. -/
def Miner.builtIn : List Miner := [
  { id := "03e92d3e5c3f7bd945dfbf48e7a99393b1bfb3f11f380ae30d286e7ff2aec5a270"
    name := "Taal"
    url := "https://merchantapi.taal.com" },
  { id := "0211ccfc29e3058b770f3cf3eb34b0b2fd2293057a994d4d275121be4151cdf087"
    name := "Mempool"
    url := "https://merchantapi.matterpool.io" },
  { id := "03ad780153c47df915b3d2e23af727c68facaf4fcf8c9a1ab2b8b3f8b4a3e0aac8"
    name := "GorillaPool"
    url := "https://arc.gorillapool.io"
    dialect := .arc }]

/-- The time limits that settings hold. -/
inductive Limit where
  | query
  | broadcast
  | merkle
  | feeProbe
deriving DecidableEq, Repr

namespace Limit

def all : List Limit := [.query, .broadcast, .merkle, .feeProbe]

/-- The name of the limit in settings. -/
def memberName : Limit → String
  | .query => "query_timeout_seconds"
  | .broadcast => "broadcast_timeout_seconds"
  | .merkle => "merkle_timeout_seconds"
  | .feeProbe => "fee_probe_timeout_seconds"

/-- The seconds of the limit where the settings are silent. -/
def standard : Limit → UInt64
  | .query => 10
  | .broadcast => 30
  | .merkle => 10
  | .feeProbe => 5

end Limit

structure Settings where
  network : Network := .main
  /-- The families that are never called. -/
  excluded : List Family := []
  querySeconds : UInt64 := Limit.standard .query
  broadcastSeconds : UInt64 := Limit.standard .broadcast
  merkleSeconds : UInt64 := Limit.standard .merkle
  feeProbeSeconds : UInt64 := Limit.standard .feeProbe
  /-- Take the cheapest quoted fee, not the standard one. -/
  useQuotedFees : Bool := true
  raceStragglers : Stragglers := .detach
  merkleStragglers : Stragglers := .detach
  broadcastMiners : Option (List Miner) := none
  queryMiners : Option (List Miner) := none
  explorer : Endpoint := Endpoint.publicExplorer
  secondaryExplorer : Option Endpoint := none
  nodeProxy : Option Endpoint := none
  verifiers : List Verifier := []
deriving DecidableEq, Repr

namespace Settings

def isExcluded (s : Settings) (f : Family) : Bool := s.excluded.contains f

/-- The miners that the settings name for a purpose. -/
def namedMiners (s : Settings) : Purpose → Option (List Miner)
  | .broadcast => s.broadcastMiners
  | .query => s.queryMiners

/-- The miners for a purpose, named or built in. -/
def miners (s : Settings) (p : Purpose) : List Miner := (s.namedMiners p).getD Miner.builtIn

/-- A time limit in seconds. -/
def seconds (s : Settings) : Limit → UInt64
  | .query => s.querySeconds
  | .broadcast => s.broadcastSeconds
  | .merkle => s.merkleSeconds
  | .feeProbe => s.feeProbeSeconds

/-- A time limit in milliseconds. -/
def limit (s : Settings) (l : Limit) : Nat := (s.seconds l).toNat * 1000

/-- The key for the node proxy, if there is one that can be used. -/
def nodeProxyCredential? (s : Settings) : Option Secret := s.nodeProxy.bind Endpoint.credential?

end Settings

end TxGateway
