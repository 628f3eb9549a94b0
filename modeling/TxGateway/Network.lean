import TxGateway.Document.Record

namespace TxGateway

/-! # Networks

The network that the gateway works on. Miners and node proxies serve the main and the test network
only.
-/

inductive Network where
  | main
  | test
  | stressTest
deriving DecidableEq, Repr, Inhabited

namespace Network

/-- The short name, in settings and in paths. -/
def name : Network → String
  | .main => "main"
  | .test => "test"
  | .stressTest => "stn"

/-- Reads a name or its longer form. -/
def ofName? : String → Option Network
  | "main" | "mainnet" => some .main
  | "test" | "testnet" => some .test
  | "stn" | "stresstestnet" => some .stressTest
  | _ => none

/-- Reads a name in any ASCII case. -/
def parse? (s : String) : Option Network := ofName? (s.map Char.toLower)

/-- Why a text is no network. -/
def unknownMessage (s : String) : String := s!"unknown network '{s}'"

/-- Whether miners and node proxies serve the network. -/
def servesMiners : Network → Bool
  | .main | .test => true
  | .stressTest => false

def ofDocument? (d : Document) : Option Network := d.name?.bind ofName?

def toDocument (n : Network) : Document := .text n.name

theorem ofName?_name (n : Network) : ofName? n.name = some n := by cases n <;> rfl

end Network

end TxGateway
