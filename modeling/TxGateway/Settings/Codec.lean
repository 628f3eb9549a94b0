import TxGateway.Settings

namespace TxGateway

/-! # Settings as documents

Settings are read from a document, of a TOML or a JSON text alike, and written back with every
secret redacted.
-/

namespace Stragglers

def name : Stragglers → String
  | .detach => "detach"
  | .abort => "abort"

def ofName? : String → Option Stragglers
  | "detach" => some .detach
  | "abort" => some .abort
  | _ => none

def ofDocument? (d : Document) : Option Stragglers := d.name?.bind ofName?

def toDocument (s : Stragglers) : Document := .text s.name

end Stragglers

namespace Endpoint

def ofDocument? (d : Document) : Option Endpoint := do
  let ms ← Document.members? ["url", "api_key"] d
  return ⟨← ms.required "url" Document.text?, ← ms.optional "api_key" Secret.ofDocument?⟩

def toDocument (e : Endpoint) : Document :=
  .record ([("url", .text e.url)] ++ Document.memberIfSome "api_key" Secret.toDocument e.apiKey)

end Endpoint

namespace Verifier

def ofDocument? (d : Document) : Option Verifier := do
  let ms ← Document.members? ["url", "token"] d
  return ⟨← ms.required "url" Document.text?, ← ms.required "token" Secret.ofDocument?⟩

def toDocument (v : Verifier) : Document :=
  .record [("url", .text v.url), ("token", v.token.toDocument)]

end Verifier

namespace Settings

/-- The two lists of miners, each of which may be absent. -/
def minerLists? (d : Document) : Option (Option (List Miner) × Option (List Miner)) := do
  let ms ← Document.members? ["broadcast", "query"] d
  return (← ms.nullable "broadcast" (Document.list? Miner.ofDocument?),
    ← ms.nullable "query" (Document.list? Miner.ofDocument?))

def minersDocument (miners : List Miner) : Document := .list (miners.map Miner.toDocument)

def memberNames : List String :=
  ["network", "excluded_providers", "query_timeout_seconds", "broadcast_timeout_seconds",
    "merkle_timeout_seconds", "fee_probe_timeout_seconds", "validate_fee_quotes",
    "race_stragglers", "merkle_stragglers", "miners", "explorer", "secondary_explorer",
    "node_proxy", "merkle_verifiers"]

def ofDocument? (d : Document) : Option Settings := do
  let ms ← Document.members? memberNames d
  let limit (l : Limit) := ms.withDefault l.memberName Document.word? l.standard
  let network ← ms.withDefault "network" Network.ofDocument? .main
  let excluded ← ms.withDefault "excluded_providers" (Document.list? Family.ofDocument?) []
  let querySeconds ← limit .query
  let broadcastSeconds ← limit .broadcast
  let merkleSeconds ← limit .merkle
  let feeProbeSeconds ← limit .feeProbe
  let useQuotedFees ← ms.withDefault "validate_fee_quotes" Document.bool? true
  let raceStragglers ← ms.withDefault "race_stragglers" Stragglers.ofDocument? .detach
  let merkleStragglers ← ms.withDefault "merkle_stragglers" Stragglers.ofDocument? .detach
  let (broadcastMiners, queryMiners) ← ms.withDefault "miners" minerLists? (none, none)
  let explorer ← ms.withDefault "explorer" Endpoint.ofDocument? Endpoint.publicExplorer
  let secondaryExplorer ← ms.optional "secondary_explorer" Endpoint.ofDocument?
  let nodeProxy ← ms.optional "node_proxy" Endpoint.ofDocument?
  let verifiers ← ms.withDefault "merkle_verifiers" (Document.list? Verifier.ofDocument?) []
  return { network, excluded, querySeconds, broadcastSeconds, merkleSeconds, feeProbeSeconds,
           useQuotedFees, raceStragglers, merkleStragglers, broadcastMiners, queryMiners, explorer,
           secondaryExplorer, nodeProxy, verifiers }

def toDocument (s : Settings) : Document :=
  .record ([("network", s.network.toDocument),
    ("excluded_providers", .list (s.excluded.map Family.toDocument))] ++
    Limit.all.map (fun l => (l.memberName, .ofWord (s.seconds l))) ++
    [("validate_fee_quotes", .bool s.useQuotedFees),
    ("race_stragglers", s.raceStragglers.toDocument),
    ("merkle_stragglers", s.merkleStragglers.toDocument),
    ("miners", .record [("broadcast", .ofOption minersDocument s.broadcastMiners),
      ("query", .ofOption minersDocument s.queryMiners)]),
    ("explorer", s.explorer.toDocument),
    ("secondary_explorer", .ofOption Endpoint.toDocument s.secondaryExplorer),
    ("node_proxy", .ofOption Endpoint.toDocument s.nodeProxy),
    ("merkle_verifiers", .list (s.verifiers.map Verifier.toDocument))])

end Settings

end TxGateway
