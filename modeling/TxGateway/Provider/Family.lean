import TxGateway.Document.Record

namespace TxGateway

/-! # Provider families

The kinds of providers. Settings leave out whole families, never a single provider.
-/

inductive Family where
  | miner
  | explorer
  | secondaryExplorer
  | nodeProxy
deriving DecidableEq, Repr

namespace Family

/-- The families in the order in which their providers are listed. -/
def all : List Family := [.miner, .explorer, .secondaryExplorer, .nodeProxy]

def name : Family → String
  | .miner => "miner"
  | .explorer => "explorer"
  | .secondaryExplorer => "secondary_explorer"
  | .nodeProxy => "node_proxy"

def ofName? : String → Option Family
  | "miner" => some .miner
  | "explorer" => some .explorer
  | "secondary_explorer" => some .secondaryExplorer
  | "node_proxy" => some .nodeProxy
  | _ => none

/-- Why a text is no family. -/
def unknownMessage (s : String) : String := s!"unknown provider family '{s}'"

/-- The family in a diagnostic. -/
def inspect : Family → String
  | .miner => "Miner"
  | .explorer => "Explorer"
  | .secondaryExplorer => "SecondaryExplorer"
  | .nodeProxy => "NodeProxy"

def ofDocument? (d : Document) : Option Family := d.name?.bind ofName?

def toDocument (f : Family) : Document := .text f.name

theorem ofName?_name (f : Family) : ofName? f.name = some f := by cases f <;> rfl

end Family

end TxGateway
