import TxGateway.Fee
import TxGateway.Secret
import TxGateway.Timestamp.Reader

namespace TxGateway

/-! # Miners

A miner takes transactions through one of two interfaces. Besides its address it carries the fee
of its last probe.
-/

/-- The interface that a miner offers: the merchant interface, which publishes fee quotes, or the
ARC interface, which publishes a policy. -/
inductive MinerDialect where
  | merchant
  | arc
deriving DecidableEq, Repr, Inhabited

namespace MinerDialect

def name : MinerDialect → String
  | .merchant => "mapi"
  | .arc => "arc"

def ofName? : String → Option MinerDialect
  | "mapi" => some .merchant
  | "arc" => some .arc
  | _ => none

def ofDocument? (d : Document) : Option MinerDialect := d.name?.bind ofName?

def toDocument (d : MinerDialect) : Document := .text d.name

end MinerDialect

/-- A miner, and what the last probe of its fee has shown. -/
structure Miner where
  id : String
  name : String
  url : String
  token : Option Secret := none
  dialect : MinerDialect := .merchant
  /-- The fee of the last probe that succeeded. -/
  fee : Option Fee := none
  /-- When the miner was last probed. -/
  probedAt : Option Timestamp := none
deriving DecidableEq, Repr

namespace Miner

/-- The token, if it can be used. -/
def credential? (m : Miner) : Option Secret := Secret.usable? m.token

def memberNames : List String :=
  ["miner_id", "name", "url", "token", "api", "fee_unit", "fee_last_checked"]

def ofDocument? (d : Document) : Option Miner := do
  let ms ← Document.members? memberNames d
  return {
    id := ← ms.required "miner_id" Document.text?
    name := ← ms.required "name" Document.text?
    url := ← ms.required "url" Document.text?
    token := ← ms.optional "token" Secret.ofDocument?
    dialect := ← ms.withDefault "api" MinerDialect.ofDocument? .merchant
    fee := ← ms.optional "fee_unit" Fee.ofDocument?
    probedAt := ← ms.optional "fee_last_checked" Timestamp.ofDocument? }

def toDocument (m : Miner) : Document :=
  .record ([("miner_id", .text m.id), ("name", .text m.name), ("url", .text m.url)] ++
    Document.memberIfSome "token" Secret.toDocument m.token ++
    [("api", m.dialect.toDocument)] ++
    Document.memberIfSome "fee_unit" Fee.toDocument m.fee ++
    Document.memberIfSome "fee_last_checked" Timestamp.toDocument m.probedAt)

end Miner

end TxGateway
