import TxGateway.Document.Free
import TxGateway.Document.Record
import TxGateway.Text.Utf8

namespace TxGateway

/-! # Transactions

What a provider tells about a transaction, and how far into the chain a caller wants it to be.

* `TxRecord` is one provider's account of a transaction.
* `Inclusion` is a wanted level, and `Inclusion.metBy` tells whether a record reaches it for an id.
-/

/-- An account of a transaction. -/
structure TxRecord where
  /-- The hash of the block that holds the transaction, empty outside a block. -/
  blockHash : String := ""
  blockHeight : UInt64 := 0
  confirmations : UInt64 := 0
  id : String
  /-- The miner that has taken the transaction, empty if none is named. -/
  minerId : String := ""
  /-- The provider that gave the account. -/
  provider : String := ""
  merkleProof : Option FreeValue := none
deriving DecidableEq

namespace TxRecord

def isMined (r : TxRecord) : Bool := r.blockHash != ""

def memberNames : List String :=
  ["block_hash", "block_height", "confirmations", "id", "miner_id", "provider", "merkle_proof"]

def ofDocument? (d : Document) : Option TxRecord := do
  let ms ← Document.members? memberNames d
  return {
    blockHash := ← ms.withDefault "block_hash" Document.text? ""
    blockHeight := ← ms.withDefault "block_height" Document.word? 0
    confirmations := ← ms.withDefault "confirmations" Document.word? 0
    id := ← ms.required "id" Document.text?
    minerId := ← ms.withDefault "miner_id" Document.text? ""
    provider := ← ms.withDefault "provider" Document.text? ""
    merkleProof := ← ms.optional "merkle_proof" FreeValue.ofDocument? }

def toDocument (r : TxRecord) : Document :=
  .record (Document.memberUnless (r.blockHash == "") "block_hash" (.text r.blockHash) ++
    [("block_height", .ofWord r.blockHeight)] ++
    Document.memberUnless (r.confirmations == 0) "confirmations" (.ofWord r.confirmations) ++
    [("id", .text r.id)] ++
    Document.memberUnless (r.minerId == "") "miner_id" (.text r.minerId) ++
    Document.memberUnless (r.provider == "") "provider" (.text r.provider) ++
    Document.memberIfSome "merkle_proof" FreeValue.document r.merkleProof)

end TxRecord

/-! ## Inclusion -/

/-- How far into the chain a transaction has to be. -/
inductive Inclusion where
  /-- Known to some miner, or in a block. -/
  | mempool
  /-- In a block with a confirmation. -/
  | chain
deriving DecidableEq, Repr

namespace Inclusion

/-- The name on the command line and in messages. -/
def name : Inclusion → String
  | .mempool => "mempool"
  | .chain => "onchain"

/-- The name in documents. -/
def documentName : Inclusion → String
  | .mempool => "in_mempool"
  | .chain => "on_chain"

/-- Reads either name, in any ASCII case. -/
def parse? (s : String) : Option Inclusion :=
  match s.map Char.toLower with
  | "mempool" | "in_mempool" => some .mempool
  | "onchain" | "on_chain" => some .chain
  | _ => none

/-- Why a text is no level. -/
def unknownMessage (s : String) : String :=
  s!"unrecognized requirement '{s}', expected 'mempool' or 'onchain'"

/-- Reads the name in documents. -/
def ofDocumentName? : String → Option Inclusion
  | "in_mempool" => some .mempool
  | "on_chain" => some .chain
  | _ => none

def ofDocument? (d : Document) : Option Inclusion := d.name?.bind ofDocumentName?

def toDocument (i : Inclusion) : Document := .text i.documentName

/-- Whether a record shows that the transaction `id` has reached the level. -/
def metBy (i : Inclusion) (id : String) (r : TxRecord) : Bool :=
  match i with
  | .mempool => r.id == id && (r.minerId != "" || r.isMined)
  | .chain => r.isMined && 0 < r.confirmations

theorem metBy_mempool_iff {id : String} {r : TxRecord} : Inclusion.mempool.metBy id r = true ↔
    r.id = id ∧ (r.minerId ≠ "" ∨ r.blockHash ≠ "") := by
  simp [metBy, TxRecord.isMined]

theorem metBy_chain_iff {id : String} {r : TxRecord} : Inclusion.chain.metBy id r = true ↔
    r.blockHash ≠ "" ∧ 0 < r.confirmations := by
  simp [metBy, TxRecord.isMined]

end Inclusion

/-! ## Ids -/

namespace TxId

/-- The least length of an id, in bytes. -/
def minLength : Nat := 50

/-- Whether an id is long enough to be asked for. -/
def isLongEnough (id : String) : Bool := minLength ≤ Text.byteLength id

/-- Whether a reply that names `actual` may be about `expected`; a reply may leave the id out. -/
def agrees (expected actual : String) : Bool := actual == "" || actual == expected

/-- Splits off the characters that take up exactly `n` bytes, `none` if the cut would fall into a
character or behind the end. -/
def takeBytes? : List Char → Nat → Option (List Char)
  | [], n => if n = 0 then some [] else none
  | c :: rest, n =>
    if n = 0 then some []
    else if c.utf8Size ≤ n then (takeBytes? rest (n - c.utf8Size)).map (c :: ·)
    else none

/-- An id cut to eight bytes and two dots, for messages. An id of eight bytes or less, and one
whose eighth byte is not the end of a character, is left as it is. -/
def shortened (id : String) : String :=
  match takeBytes? id.toList 8 with
  | some front => if 8 < Text.byteLength id then String.ofList front ++ ".." else id
  | none => id

end TxId

end TxGateway
