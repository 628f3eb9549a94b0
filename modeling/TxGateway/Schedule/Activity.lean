import TxGateway.Provider.Call

namespace TxGateway

/-! # Activities

An activity is what one task does: it makes calls one after the other, and what it asks next may
depend on the answers. Given the outside and an instant to start at, it has a `Timeline`: the calls
with their times, the instant at which the task ends, and what it ends with.

* `Activity.ask` makes one call with a deadline.
* A call that is answered at once does not wait, so it is in time even if its deadline is over.
* An answer at the very deadline is in time.
-/

/-- How a call ended. -/
inductive Fate where
  | answered
  /-- The deadline passed first, and the call was dropped. -/
  | late
  /-- The task that made the call crashed. -/
  | crashed
  /-- The call was broken off from outside. -/
  | aborted
deriving DecidableEq, Repr

/-- A call that was made. -/
structure CallTrace where
  call : Call
  began : Instant
  ended : Instant
  fate : Fate
deriving DecidableEq

/-- A call that lets other tasks run meanwhile. -/
def CallTrace.waits (c : CallTrace) : Bool := c.began < c.ended

/-- The course of a task. -/
structure Timeline (α : Type) where
  calls : List CallTrace
  finish : Instant
  /-- What the task ends with, `none` if it crashed. -/
  value : Option α

/-- The instants at which the task goes on after a wait. -/
def Timeline.wakes {α : Type} (t : Timeline α) : List Instant :=
  (t.calls.filter CallTrace.waits).map CallTrace.ended

/-- What a task does, as a function of the outside and of the instant at which it starts. -/
def Activity (α : Type) : Type := World → Instant → Timeline α

namespace Activity

variable {α β : Type}

/-- Ends at once. -/
protected def pure (a : α) : Activity α := fun _ now => ⟨[], now, some a⟩

/-- Goes on with what an activity ended with, unless it crashed. -/
protected def bind (x : Activity α) (next : α → Activity β) : Activity β := fun w now =>
  let first := x w now
  match first.value with
  | none => ⟨first.calls, first.finish, none⟩
  | some a =>
    let second := next a w first.finish
    ⟨first.calls ++ second.calls, second.finish, second.value⟩

instance : Monad Activity where
  pure := Activity.pure
  bind := Activity.bind

/-- The present instant. -/
def now : Activity Instant := fun _ now => ⟨[], now, some now⟩

/-- A call that ends after some time, if that is not later than the deadline. -/
def within (c : Call) (deadline now : Instant) (delay : Nat) (fate : Fate)
    (value : Option (Option (Reply c.Answer))) : Timeline (Option (Reply c.Answer)) :=
  if delay = 0 ∨ now + delay ≤ deadline then ⟨[⟨c, now, now + delay, fate⟩], now + delay, value⟩
  else ⟨[⟨c, now, max now deadline, .late⟩], max now deadline, some none⟩

/-- Makes a call; there is no reply when the deadline passes first. -/
def ask (c : Call) (deadline : Instant) : Activity (Option (Reply c.Answer)) := fun w now =>
  match w now c with
  | .answer delay reply => within c deadline now delay .answered (some (some reply))
  | .crash delay => within c deadline now delay .crashed none
  | .silence => ⟨[⟨c, now, max now deadline, .late⟩], max now deadline, some none⟩

end Activity

end TxGateway
