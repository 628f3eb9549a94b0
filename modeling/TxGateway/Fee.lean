import TxGateway.Document.Record

namespace TxGateway

/-! # Fees

A fee is a rate: so many satoshis for so many bytes. A rate for zero bytes is no rate, and such a
fee is not valid.

* `Fee.compareRate` orders fees by their rates, without division; fees that are not valid come last.
* `Fee.estimate` is the fee of a transaction, rounded up.
* `Fee.lowest?` is the cheapest fee of a list, the first of several.
-/

structure Fee where
  satoshis : UInt64
  bytes : UInt64
deriving DecidableEq, Repr

namespace Fee

/-- The fee where no quote has been chosen. -/
def standard : Fee := ⟨1, 20⟩

def isValid (f : Fee) : Bool := 0 < f.bytes

/-- Compares two rates by cross multiplication. -/
def compareRate (a b : Fee) : Ordering :=
  match a.isValid, b.isValid with
  | true, true =>
    compare (a.satoshis.toNat * b.bytes.toNat) (b.satoshis.toNat * a.bytes.toNat)
  | true, false => .lt
  | false, true => .gt
  | false, false => .eq

/-- The satoshis for a transaction of `size` bytes, rounded up, and zero if the fee is not valid. -/
def estimate (f : Fee) (size : Nat) : Nat :=
  if f.isValid then (size * f.satoshis.toNat + (f.bytes.toNat - 1)) / f.bytes.toNat else 0

/-- The cheaper of two fees, the first if their rates are equal. -/
def cheaper (a b : Fee) : Fee := if b.compareRate a = .lt then b else a

/-- The cheapest fee of a list, the first of several. -/
def lowest? : List Fee → Option Fee
  | [] => none
  | f :: rest => some (rest.foldl cheaper f)

def message (f : Fee) : String := s!"{f.satoshis} sat / {f.bytes} bytes"

/-! ## Documents -/

def ofDocument? (d : Document) : Option Fee := do
  let ms ← Document.members? ["satoshis", "bytes"] d
  return ⟨← ms.required "satoshis" Document.word?, ← ms.required "bytes" Document.word?⟩

def toDocument (f : Fee) : Document :=
  .record [("satoshis", .ofWord f.satoshis), ("bytes", .ofWord f.bytes)]

end Fee

end TxGateway
