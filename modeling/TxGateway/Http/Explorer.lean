import TxGateway.Http.Exchange
import TxGateway.Settings

namespace TxGateway.Http.Explorer

/-! # Exchanges with explorers

An explorer serves each network under a path of its own. Its answer to a submission is the id of the
transaction, as a JSON string or as bare text with or without quotes.
-/

/-- An account of a transaction as explorers and nodes give it. -/
def sighting? (d : Document) : Option ChainSighting := do
  let ms ← Document.members? ["txid", "blockhash", "blockheight", "confirmations"] d
  let id ← ms.required "txid" Document.text?
  let blockHash ← ms.optional "blockhash" Document.text?
  let blockHeight ← ms.optional "blockheight" Document.word?
  let confirmations ← ms.optional "confirmations" Document.word?
  return {
    id
    blockHash := blockHash.getD ""
    blockHeight := blockHeight.getD 0
    confirmations := confirmations.getD 0 }

/-- The id in the answer to a submission. -/
def publishedId (body : String) : String :=
  let body := Text.trim body
  match (Document.Json.read? body).bind Document.text? with
  | some id => id
  | none => Text.trimOf (· == '"') body

/-- An address of the explorer for a network. -/
def address (e : Endpoint) (n : Network) (path : String) : String :=
  Url.join (Url.join e.url n.name) path

/-- The request with the explorer's key, if there is one that can be used. -/
def authorized (e : Endpoint) (d : Draft) : Draft :=
  d.withHeader? "authorization" (e.credential?.map Secret.plain)

/-- Hands a transaction to an explorer. -/
def publish (e : Endpoint) (n : Network) (hex : String) : Exchange String where
  draft := authorized e (.post (address e n "tx/raw") (.record [("txhex", .text hex)]))
  read reply := reply.map publishedId

/-- Asks an explorer for a transaction. -/
def find (e : Endpoint) (n : Network) (id : String) : Exchange ChainSighting :=
  Exchange.json (authorized e (.get (address e n ("tx/hash/" ++ id)))) sighting?

end TxGateway.Http.Explorer
