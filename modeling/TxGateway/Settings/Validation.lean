import TxGateway.Settings

namespace TxGateway

/-! # Valid settings

Settings are valid when every time limit is positive, every address is given, and no list of miners
has a miner without an id or two miners of the same id.

* `Settings.violations` lists what is wrong, in a fixed order.
* `Settings.validate` fails with the first of them.
-/

/-- What is wrong with settings. -/
inductive Violation where
  | zeroLimit (limit : Limit)
  | minerWithoutId (list : Purpose) (miner : String)
  | minerWithoutUrl (list : Purpose) (miner : String)
  | repeatedMiner (list : Purpose) (id : String)
  | explorerWithoutUrl
  | secondaryExplorerWithoutUrl
  | nodeProxyWithoutUrl
  | verifierWithoutUrl (position : Nat)
deriving DecidableEq, Repr

namespace Violation

/-- The name of a list of miners in settings. -/
def listName (p : Purpose) : String := "miners." ++ p.name

def message : Violation → String
  | .zeroLimit limit => s!"{limit.memberName} must be greater than 0"
  | .minerWithoutId list miner => s!"{listName list}: miner '{miner}' has an empty miner_id"
  | .minerWithoutUrl list miner => s!"{listName list}: miner '{miner}' has an empty url"
  | .repeatedMiner list id => s!"{listName list}: duplicate miner_id '{id}'"
  | .explorerWithoutUrl => "explorer.url cannot be empty"
  | .secondaryExplorerWithoutUrl => "secondary_explorer.url cannot be empty"
  | .nodeProxyWithoutUrl => "node_proxy.url cannot be empty"
  | .verifierWithoutUrl position => s!"merkle_verifiers[{position}].url cannot be empty"

/-- A violation if a condition holds. -/
def on (condition : Bool) (v : Violation) : List Violation := if condition then [v] else []

/-- What is wrong with miners of a list, when miners with the ids `before` stand in front. -/
def inMiners (list : Purpose) (before : List String) : List Miner → List Violation
  | [] => []
  | m :: rest =>
    on (Text.isBlankText m.id) (.minerWithoutId list m.name) ++
      on (Text.isBlankText m.url) (.minerWithoutUrl list m.name) ++
      on (before.contains m.id) (.repeatedMiner list m.id) ++
      inMiners list (m.id :: before) rest

/-- What is wrong with verifiers, the first of which stands at `position`. -/
def inVerifiers (position : Nat) : List Verifier → List Violation
  | [] => []
  | v :: rest =>
    on (Text.isBlankText v.url) (.verifierWithoutUrl position) ++ inVerifiers (position + 1) rest

end Violation

namespace Settings

open Violation

/-- What is wrong with settings, in the order in which it is looked at. -/
def violations (s : Settings) : List Violation :=
  Limit.all.flatMap (fun l => on (s.seconds l == 0) (.zeroLimit l)) ++
    inMiners .broadcast [] (s.broadcastMiners.getD []) ++
    inMiners .query [] (s.queryMiners.getD []) ++
    on (Text.isBlankText s.explorer.url) .explorerWithoutUrl ++
    on (s.secondaryExplorer.any fun e => Text.isBlankText e.url) .secondaryExplorerWithoutUrl ++
    on (s.nodeProxy.any fun e => Text.isBlankText e.url) .nodeProxyWithoutUrl ++
    inVerifiers 0 s.verifiers

/-- Fails with the first violation. -/
def validate (s : Settings) : Except Violation Unit :=
  match s.violations with
  | [] => .ok ()
  | v :: _ => .error v

end Settings

end TxGateway
