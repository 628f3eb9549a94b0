import TxGateway.Document.Record

namespace TxGateway

/-! # Merkle roots

A claim that a block of some height has a merkle root, and the verdict of a verification service
over a batch of such claims. The service judges the batch and may judge its roots one by one.
-/

/-- The claim that the block at a height has a merkle root. -/
structure RootClaim where
  root : String
  height : UInt64
deriving DecidableEq, Repr

namespace RootClaim

def ofDocument? (d : Document) : Option RootClaim := do
  let ms ← Document.members? ["merkleRoot", "blockHeight"] d
  return ⟨← ms.required "merkleRoot" Document.text?, ← ms.required "blockHeight" Document.word?⟩

def toDocument (c : RootClaim) : Document :=
  .record [("merkleRoot", .text c.root), ("blockHeight", .ofWord c.height)]

end RootClaim

inductive Verdict where
  | confirmed
  | invalid
  | unverifiable
deriving DecidableEq, Repr

namespace Verdict

def name : Verdict → String
  | .confirmed => "CONFIRMED"
  | .invalid => "INVALID"
  | .unverifiable => "UNABLE_TO_VERIFY"

def ofName? : String → Option Verdict
  | "CONFIRMED" => some .confirmed
  | "INVALID" => some .invalid
  | "UNABLE_TO_VERIFY" => some .unverifiable
  | _ => none

def ofDocument? (d : Document) : Option Verdict := d.name?.bind ofName?

def toDocument (v : Verdict) : Document := .text v.name

end Verdict

/-- The verdict on one root. -/
structure RootVerdict where
  root : String
  height : UInt64
  /-- The hash of the block. -/
  hash : Option String
  verdict : Verdict
deriving DecidableEq, Repr

namespace RootVerdict

def ofDocument? (d : Document) : Option RootVerdict := do
  let ms ← Document.members? ["merkleRoot", "blockHeight", "hash", "confirmation"] d
  return {
    root := ← ms.required "merkleRoot" Document.text?
    height := ← ms.required "blockHeight" Document.word?
    hash := ← ms.optional "hash" Document.text?
    verdict := ← ms.required "confirmation" Verdict.ofDocument? }

def toDocument (v : RootVerdict) : Document :=
  .record ([("merkleRoot", .text v.root), ("blockHeight", .ofWord v.height)] ++
    Document.memberIfSome "hash" .text v.hash ++ [("confirmation", v.verdict.toDocument)])

end RootVerdict

/-- The verdict on a batch of roots. -/
structure BatchVerdict where
  overall : Verdict
  roots : List RootVerdict
deriving DecidableEq, Repr

namespace BatchVerdict

def allConfirmed (v : BatchVerdict) : Bool := v.overall == .confirmed

/-- The roots that were judged one by one and not confirmed. -/
def unconfirmedRoots (v : BatchVerdict) : List String :=
  (v.roots.filter fun r => r.verdict != .confirmed).map RootVerdict.root

def ofDocument? (d : Document) : Option BatchVerdict := do
  let ms ← Document.members? ["confirmationState", "confirmations"] d
  return {
    overall := ← ms.required "confirmationState" Verdict.ofDocument?
    roots := ← ms.withDefault "confirmations" (Document.list? RootVerdict.ofDocument?) [] }

def toDocument (v : BatchVerdict) : Document :=
  .record [("confirmationState", v.overall.toDocument),
    ("confirmations", .list (v.roots.map RootVerdict.toDocument))]

end BatchVerdict

end TxGateway
