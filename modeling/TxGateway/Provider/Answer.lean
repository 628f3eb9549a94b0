import TxGateway.Document.Free
import TxGateway.Document.Record

namespace TxGateway

/-! # Answers of providers

What a provider answers before it is brought into a record of a transaction.

* `Submission` is a miner's answer to a transaction.
* `MinerSighting` and `ChainSighting` are a miner's and any other provider's account of one.
-/

/-- A miner's answer to a submitted transaction. -/
structure Submission where
  id : String
  minerId : String
  accepted : Bool
  description : String
deriving DecidableEq, Repr

namespace Submission

def ofDocument? (d : Document) : Option Submission := do
  let ms ← Document.members? ["tx_id", "miner_id", "accepted", "description"] d
  return {
    id := ← ms.required "tx_id" Document.text?
    minerId := ← ms.required "miner_id" Document.text?
    accepted := ← ms.required "accepted" Document.bool?
    description := ← ms.required "description" Document.text? }

def toDocument (s : Submission) : Document :=
  .record [("tx_id", .text s.id), ("miner_id", .text s.minerId), ("accepted", .bool s.accepted),
    ("description", .text s.description)]

end Submission

/-- A miner's account of a transaction. -/
structure MinerSighting where
  id : String
  minerId : String
  blockHash : String
  blockHeight : UInt64
  confirmations : UInt64
  /-- The miner knows the transaction. -/
  found : Bool
  description : String
  merkleProof : Option FreeValue
deriving DecidableEq

namespace MinerSighting

def memberNames : List String :=
  ["tx_id", "miner_id", "block_hash", "block_height", "confirmations", "found", "description",
    "merkle_proof"]

def ofDocument? (d : Document) : Option MinerSighting := do
  let ms ← Document.members? memberNames d
  return {
    id := ← ms.required "tx_id" Document.text?
    minerId := ← ms.required "miner_id" Document.text?
    blockHash := ← ms.required "block_hash" Document.text?
    blockHeight := ← ms.required "block_height" Document.word?
    confirmations := ← ms.required "confirmations" Document.word?
    found := ← ms.required "found" Document.bool?
    description := ← ms.required "description" Document.text?
    merkleProof := ← ms.nullable "merkle_proof" FreeValue.ofDocument? }

def toDocument (s : MinerSighting) : Document :=
  .record [("tx_id", .text s.id), ("miner_id", .text s.minerId), ("block_hash", .text s.blockHash),
    ("block_height", .ofWord s.blockHeight), ("confirmations", .ofWord s.confirmations),
    ("found", .bool s.found), ("description", .text s.description),
    ("merkle_proof", .ofOption FreeValue.document s.merkleProof)]

end MinerSighting

/-- An explorer's or a node's account of a transaction. -/
structure ChainSighting where
  id : String
  blockHash : String
  blockHeight : UInt64
  confirmations : UInt64
deriving DecidableEq, Repr

namespace ChainSighting

def ofDocument? (d : Document) : Option ChainSighting := do
  let ms ← Document.members? ["tx_id", "block_hash", "block_height", "confirmations"] d
  return {
    id := ← ms.required "tx_id" Document.text?
    blockHash := ← ms.required "block_hash" Document.text?
    blockHeight := ← ms.required "block_height" Document.word?
    confirmations := ← ms.required "confirmations" Document.word? }

def toDocument (s : ChainSighting) : Document :=
  .record [("tx_id", .text s.id), ("block_hash", .text s.blockHash),
    ("block_height", .ofWord s.blockHeight), ("confirmations", .ofWord s.confirmations)]

end ChainSighting

end TxGateway
