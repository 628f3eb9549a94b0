import TxGateway.Schedule.EventLoop

namespace TxGateway

/-! # Latches

A latch is written once. It tells a caller that waits which provider was the first to take a
transaction, while the others are still busy. Who waits sees the name at the instant at which it is
recorded.
-/

structure Latch where
  /-- What was recorded first, and when. -/
  first : Option (Arrival String) := none
deriving DecidableEq, Repr

namespace Latch

/-- The name that was recorded first. -/
def name? (l : Latch) : Option String := l.first.map Arrival.value

def isSet (l : Latch) : Bool := l.first.isSome

/-- Records a name; only the first one is kept. -/
def record (l : Latch) (name : Arrival String) : Latch := ⟨l.first.or (some name)⟩

/-- Records names one after the other. -/
def recordAll (l : Latch) (names : List (Arrival String)) : Latch := names.foldl record l

/-! ## A caller that waits -/

/-- A latch and the clock that its users see. -/
structure Watch where
  latch : Latch := {}
  now : Instant := 0

/-- Records a name now, and tells whether it was the first. -/
def Watch.record (w : Watch) (name : String) : Bool × Watch :=
  (!w.latch.isSet, { w with latch := w.latch.record ⟨w.now, name⟩ })

/-- Lets time pass. -/
def Watch.advance (w : Watch) (duration : Nat) : Watch := { w with now := w.now + duration }

/-- Waits for a name, for some time at most. -/
def Watch.wait (w : Watch) (limit : Nat) : Option String × Watch :=
  match w.latch.name? with
  | some name => (some name, w)
  | none => (none, w.advance limit)

end Latch

end TxGateway
