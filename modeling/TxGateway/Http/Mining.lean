import TxGateway.Http.Exchange

namespace TxGateway.Http.Mining

/-! # Exchanges with miners

The two interfaces of miners. The merchant interface wraps its answers: a document holds the text of
another document. The ARC interface answers plainly, and tells by a status how far it has come.
-/

/-- The request with the miner's token, if it has one that can be used. -/
def authorized (m : Miner) (d : Draft) : Draft :=
  d.withHeader? "authorization" (m.credential?.map Secret.bearer)

/-- An address of the miner. -/
def address (m : Miner) (path : String) : String := Url.join m.url path

/-! ## The merchant interface -/

/-- The text inside a wrapped answer. -/
def payload? (d : Document) : Option String := do
  let ms ← Document.members? ["payload"] d
  ms.required "payload" Document.text?

/-- An exchange whose answer is wrapped. -/
def wrapped {α : Type} (d : Draft) (value? : Document → Option α) : Exchange α :=
  (Exchange.json d payload?).andThen (readJson value?)

/-- The result that stands for success. -/
def success : String := "success"

/-- An answer to a submission, from the miner `m`. -/
def submissionOf? (m : Miner) (d : Document) : Option Submission := do
  let ms ← Document.members? ["txid", "returnResult", "resultDescription", "minerId"] d
  let id ← ms.withDefault "txid" Document.text? ""
  let result ← ms.required "returnResult" Document.text?
  let description ← ms.withDefault "resultDescription" Document.text? ""
  let minerId ← ms.optional "minerId" Document.text?
  return { id, minerId := minerId.getD m.id, accepted := result == success, description }

def sightingNames : List String :=
  ["txid", "returnResult", "resultDescription", "blockHash", "blockHeight", "confirmations",
    "minerId", "merkleProof"]

/-- An account of a transaction, from the miner `m`. -/
def sightingOf? (m : Miner) (d : Document) : Option MinerSighting := do
  let ms ← Document.members? sightingNames d
  let id ← ms.withDefault "txid" Document.text? ""
  let result ← ms.required "returnResult" Document.text?
  let description ← ms.withDefault "resultDescription" Document.text? ""
  let blockHash ← ms.optional "blockHash" Document.text?
  let blockHeight ← ms.optional "blockHeight" Document.word?
  let confirmations ← ms.optional "confirmations" Document.word?
  let minerId ← ms.optional "minerId" Document.text?
  let merkleProof ← ms.optional "merkleProof" FreeValue.ofDocument?
  return {
    id, description, merkleProof
    minerId := minerId.getD m.id
    blockHash := blockHash.getD ""
    blockHeight := blockHeight.getD 0
    confirmations := confirmations.getD 0
    found := result == success }

/-- A fee and what it is for. -/
def namedFee? (d : Document) : Option (String × Fee) := do
  let ms ← Document.members? ["feeType", "miningFee"] d
  return (← ms.required "feeType" Document.text?, ← ms.required "miningFee" Fee.ofDocument?)

/-- The fees of a quote. -/
def fees? (d : Document) : Option (List (String × Fee)) := do
  let ms ← Document.members? ["fees"] d
  ms.required "fees" (Document.list? namedFee?)

/-- The first fee for standard transactions. -/
def standardFee (fees : List (String × Fee)) : Reply Fee :=
  match fees.lookup "standard" with
  | some fee => .ok fee
  | none => .error (.unreadable "fee quote has no standard fee")

/-- Asks for the fee quote. -/
def feeQuote (m : Miner) : Exchange Fee :=
  (wrapped (authorized m (.get (address m "/mapi/feeQuote"))) fees?).andThen standardFee

/-! ## The ARC interface -/

/-- What the interface tells about a transaction. -/
structure ArcStatus where
  id : String
  /-- How far the transaction has come. -/
  stage : String
  blockHash : Option String
  blockHeight : Option UInt64
  extra : Option String
  merklePath : Option String

namespace ArcStatus

def ofDocument? (d : Document) : Option ArcStatus := do
  let ms ← Document.members?
    ["txid", "txStatus", "blockHash", "blockHeight", "extraInfo", "merklePath"] d
  return {
    id := ← ms.withDefault "txid" Document.text? ""
    stage := ← ms.withDefault "txStatus" Document.text? ""
    blockHash := ← ms.optional "blockHash" Document.text?
    blockHeight := ← ms.optional "blockHeight" Document.word?
    extra := ← ms.optional "extraInfo" Document.text?
    merklePath := ← ms.optional "merklePath" Document.text? }

/-- The stages of a transaction that was not taken. -/
def refusedStages : List String := ["", "UNKNOWN", "REJECTED", "DOUBLE_SPEND_ATTEMPTED"]

/-- The stages of a transaction that the network knows. -/
def knownStages : List String := ["SEEN_ON_NETWORK", "MINED"]

def isAccepted (s : ArcStatus) : Bool := !refusedStages.contains s.stage

def isKnown (s : ArcStatus) : Bool := knownStages.contains s.stage

/-- The stage, and what the miner adds to it. -/
def description (s : ArcStatus) : String :=
  match s.extra with
  | some extra => if extra == "" then s.stage else s.stage ++ ": " ++ extra
  | none => s.stage

/-- The answer to a submission, from the miner `m`. -/
def submission (m : Miner) (s : ArcStatus) : Submission where
  id := s.id
  minerId := m.id
  accepted := s.isAccepted
  description := s.description

/-- The account of a transaction, from the miner `m`. The interface does not count confirmations;
a transaction in a block has one. -/
def sighting (m : Miner) (s : ArcStatus) : MinerSighting :=
  let blockHash := s.blockHash.getD ""
  { id := s.id
    minerId := m.id
    blockHash
    blockHeight := s.blockHeight.getD 0
    confirmations := if blockHash == "" then 0 else 1
    found := s.isKnown
    description := s.description
    merkleProof := s.merklePath.map FreeValue.text }

end ArcStatus

/-- The fee of a policy. -/
def policyFee? (d : Document) : Option Fee := do
  let ms ← Document.members? ["policy"] d
  ms.required "policy" fun p => do
    let ms ← Document.members? ["miningFee"] p
    ms.required "miningFee" Fee.ofDocument?

/-- Asks for the policy. -/
def policyQuote (m : Miner) : Exchange Fee :=
  Exchange.json (authorized m (.get (address m "/v1/policy"))) policyFee?

/-! ## Both interfaces -/

/-- Hands a transaction to a miner. -/
def submit (m : Miner) (hex : String) : Exchange Submission :=
  match m.dialect with
  | .merchant =>
    wrapped (authorized m (.post (address m "/mapi/tx") (.record [("rawtx", .text hex)])))
      (submissionOf? m)
  | .arc =>
    Exchange.json (authorized m (.post (address m "/v1/tx") (.record [("rawTx", .text hex)])))
      fun d => (ArcStatus.ofDocument? d).map (ArcStatus.submission m)

/-- Asks a miner for a transaction. -/
def status (m : Miner) (id : String) : Exchange MinerSighting :=
  match m.dialect with
  | .merchant => wrapped (authorized m (.get (address m ("/mapi/tx/" ++ id)))) (sightingOf? m)
  | .arc =>
    Exchange.json (authorized m (.get (address m ("/v1/tx/" ++ id))))
      fun d => (ArcStatus.ofDocument? d).map (ArcStatus.sighting m)

/-- Asks a miner for its fee in one of the dialects. -/
def quote (dialect : MinerDialect) (m : Miner) : Exchange Fee :=
  match dialect with
  | .merchant => feeQuote m
  | .arc => policyQuote m

end TxGateway.Http.Mining
