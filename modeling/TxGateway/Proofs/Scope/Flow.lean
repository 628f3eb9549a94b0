import Mathlib.Logic.Relation
import TxGateway.Proofs.Traffic.Plan

namespace TxGateway.Scope

/-! # A scope at work

The tasks of a scope deliver into a queue that holds a limited number of values, and the caller takes
them out. Nobody tells the caller when the last value has come: each task has a handle of the queue,
as the caller has until it listens, and the end is there when nobody has a handle any more. Here the
caller and the tasks take their steps one at a time, in any order, and time passes in between.

* `Flow` is a scope at work, with its queue and all handles.
* `Turn` is what a task may do next, and `Move` what may happen at all before time goes on.
* `Steps` are the ways in which a scope may come from one state to another.
-/

variable {α : Type}

/-! ## Tasks at work -/

/-- How far a task has come. -/
inductive Phase (α : Type) where
  | working
  /-- It has a value to deliver, for which the queue must have room. -/
  | delivering (value : α)
  /-- It has nothing more to deliver, and still has its handle. -/
  | spent
  /-- It has let go of its handle, and is about to end. -/
  | leaving
  | ended

namespace Phase

/-- Whether the task may still deliver something. -/
def isBusy : Phase α → Bool
  | .working | .delivering _ => true
  | _ => false

/-- Whether the task has its handle. -/
def holds : Phase α → Bool
  | .working | .delivering _ | .spent => true
  | _ => false

/-- What comes after the work. A task that died has nothing to deliver, as one that is silent. -/
def after : Option α → Phase α
  | some value => .delivering value
  | none => .spent

end Phase

/-- A task that has been started. -/
structure Member (α : Type) where
  task : Task α
  phase : Phase α := .working
  /-- What it has got into the queue, and when. -/
  sent? : Option (Arrival α) := none

/-- What the step of a task does to the queue. -/
inductive Effect (α : Type) where
  | nothing
  | puts (a : Arrival α)
  | releases

namespace Effect

def put? : Effect α → Option (Arrival α)
  | .puts a => some a
  | _ => none

/-- How many handles are released. -/
def released : Effect α → Nat
  | .releases => 1
  | _ => 0

end Effect

/-! ## The caller -/

/-- How far the caller has come, with what it has taken out of the queue. -/
inductive Caller (α : Type) where
  | starting (rest : List (Task α))
  | listening (taken : List (Arrival α))
  /-- It has stopped listening, and has still to do with the tasks what is to be done. -/
  | settled (taken : List (Arrival α))
  | returned (instant : Instant) (taken : List (Arrival α))

/-- The caller when it has taken something: who waits for the first has got what it wants. -/
def Caller.took (wait : Wait) (taken : List (Arrival α)) : Caller α :=
  match wait with
  | .all => .listening taken
  | .first _ _ => .settled taken

namespace Caller

/-- The tasks that it has still to start. -/
def rest : Caller α → List (Task α)
  | .starting rest => rest
  | _ => []

/-- How many handles it has. -/
def handles : Caller α → Nat
  | .starting _ => 1
  | _ => 0

def taken : Caller α → List (Arrival α)
  | .starting _ => []
  | .listening taken | .settled taken | .returned _ taken => taken

/-- Whether the queue is still there. It goes when the caller returns. -/
def isOpen : Caller α → Bool
  | .returned _ _ => false
  | _ => true

section

variable (wait : Wait) (taken : List (Arrival α))

@[simp]
theorem rest_took : (took wait taken).rest = [] := by
  cases wait <;> rfl

@[simp]
theorem handles_took : (took wait taken).handles = 0 := by
  cases wait <;> rfl

end

end Caller

/-- Tasks that are still open when the caller returns are broken off. -/
def breaksOff : Wait → Prop
  | .first _ .abort => True
  | _ => False

/-! ## A scope at work -/

/-- A scope at work. -/
structure Flow (α : Type) where
  now : Instant
  /-- How many values the queue holds at most. -/
  capacity : Nat
  /-- How many handles of the queue there are. -/
  handles : Nat
  members : List (Member α)
  queue : List (Arrival α)
  /-- All that ever got into the queue, in that order. -/
  sent : List (Arrival α)
  caller : Caller α

namespace Flow

/-- A scope for as many values as there are tasks. None of them has been started yet. -/
def begin (start : Instant) (tasks : List (Task α)) : Flow α where
  now := start
  capacity := max tasks.length 1
  -- the caller's own
  handles := 1
  members := []
  queue := []
  sent := []
  caller := .starting tasks

/-- The scope when a task has made a step. -/
def turned (f : Flow α) (before : List (Member α)) (m : Member α) (after : List (Member α))
    (e : Effect α) : Flow α :=
  { f with
    handles := f.handles - e.released
    members := before ++ m :: after
    queue := f.queue ++ e.put?.toList
    sent := f.sent ++ e.put?.toList }

@[simp]
theorem caller_turned (f : Flow α) (before : List (Member α)) (m : Member α)
    (after : List (Member α)) (e : Effect α) : (f.turned before m after e).caller = f.caller :=
  rfl

end Flow

/-- What a task may do next, and what that does to the queue. -/
inductive Turn (wait : Wait) (f : Flow α) : Member α → Member α → Effect α → Prop
  /-- Its work is over. -/
  | work {m : Member α} (hphase : m.phase = .working) (hdue : m.task.finish ≤ f.now) :
      Turn wait f m { m with phase := .after m.task.value.join } .nothing
  /-- What it delivers finds room in the queue. -/
  | deliver {m : Member α} {value : α} (hphase : m.phase = .delivering value)
      (hopen : f.caller.isOpen = true) (hroom : f.queue.length < f.capacity) :
      Turn wait f m { m with phase := .spent, sent? := some ⟨f.now, value⟩ } (.puts ⟨f.now, value⟩)
  /-- The queue is gone. What it would deliver is lost, and its work may be broken off. -/
  | drop {m : Member α} (hbusy : m.phase.isBusy = true) (hclosed : f.caller.isOpen = false)
      (hwait : m.phase = .working → breaksOff wait) :
      Turn wait f m { m with phase := .spent } .nothing
  /-- It lets go of its handle, however it came to its end. -/
  | release {m : Member α} (hphase : m.phase = .spent) :
      Turn wait f m { m with phase := .leaving } .releases
  | leave {m : Member α} (hphase : m.phase = .leaving) :
      Turn wait f m { m with phase := .ended } .nothing

/-- What may happen next. -/
inductive Move (wait : Wait) : Flow α → Flow α → Prop
  /-- The caller starts a task, which gets a handle. -/
  | start {f : Flow α} {t : Task α} {rest : List (Task α)}
      (hcaller : f.caller = .starting (t :: rest)) :
      Move wait f
        { f with
          handles := f.handles + 1
          members := f.members ++ [{ task := t }]
          caller := .starting rest }
  /-- All tasks have been started. The caller lets go of its handle, and begins to listen. -/
  | listen {f : Flow α} (hcaller : f.caller = .starting []) :
      Move wait f { f with handles := f.handles - 1, caller := .listening [] }
  /-- The caller takes out what has been in the queue longest. -/
  | take {f : Flow α} {a : Arrival α} {queue taken : List (Arrival α)}
      (hcaller : f.caller = .listening taken) (hqueue : f.queue = a :: queue) :
      Move wait f { f with queue := queue, caller := .took wait (taken ++ [a]) }
  /-- The queue is empty, and nobody is left to fill it, or the deadline has come. -/
  | settle {f : Flow α} {taken : List (Arrival α)} (hcaller : f.caller = .listening taken)
      (hqueue : f.queue = []) (hover : f.handles = 0 ∨ ∃ d ∈ wait.deadline?, d ≤ f.now) :
      Move wait f { f with caller := .settled taken }
  /-- The caller returns, and the queue is gone. Who waits for all sees every task end first. -/
  | close {f : Flow α} {taken : List (Arrival α)} (hcaller : f.caller = .settled taken)
      (hjoined : wait = .all → ∀ m ∈ f.members, m.phase = .ended) :
      Move wait f { f with queue := [], caller := .returned f.now taken }
  /-- A task makes a step. -/
  | turn {f : Flow α} {before after : List (Member α)} {m m' : Member α} {e : Effect α}
      (hmembers : f.members = before ++ m :: after) (hturn : Turn wait f m m' e) :
      Move wait f (f.turned before m' after e)

/-- Something happens, or time passes. -/
inductive Step (wait : Wait) : Flow α → Flow α → Prop
  | move {f f' : Flow α} (h : Move wait f f') : Step wait f f'
  | pass {f : Flow α} {t : Instant} (hle : f.now ≤ t) : Step wait f { f with now := t }

abbrev Steps (wait : Wait) : Flow α → Flow α → Prop := Relation.ReflTransGen (Step wait)

/-! ## What a step does -/

section

variable {wait : Wait} {f f' : Flow α} {m m' : Member α} {e : Effect α}

theorem Phase.holds_of_isBusy {p : Phase α} (h : p.isBusy = true) : p.holds = true := by
  cases p <;> simp_all [Phase.isBusy, Phase.holds]

namespace Turn

theorem task_eq (h : Turn wait f m m' e) : m'.task = m.task := by
  cases h <;> rfl

/-- A task lets go of its handle once, when it has nothing more to deliver. -/
theorem holds_eq (h : Turn wait f m m' e) :
    (if m.phase.holds then 1 else 0) = (if m'.phase.holds then 1 else 0) + e.released := by
  cases h with
  | work hphase hdue =>
    cases hvalue : m.task.value.join <;> simp [hphase, Phase.after, Phase.holds, Effect.released]
  | deliver hphase hopen hroom => simp [hphase, Phase.holds, Effect.released]
  | drop hbusy hclosed hwait =>
    cases hphase : m.phase <;> simp [hphase, Phase.isBusy] at hbusy <;>
      simp [Phase.holds, Effect.released]
  | release hphase => simp [hphase, Phase.holds, Effect.released]
  | leave hphase => simp [hphase, Phase.holds, Effect.released]

/-- Only who delivers puts something into the queue, as long as it is there and has room. -/
theorem of_put {a : Arrival α} (h : Turn wait f m m' e) (ha : e.put? = some a) :
    m.phase = .delivering a.value ∧ a.instant = f.now ∧ f.caller.isOpen = true ∧
      m'.sent? = some a := by
  cases h with
  | deliver hphase hopen hroom =>
    cases ha
    exact ⟨hphase, rfl, hopen, rfl⟩
  | _ => cases ha

theorem put?_eq_none (h : Turn wait f m m' e) (hclosed : f.caller.isOpen = false) :
    e.put? = none := by
  by_contra hput
  rcases Option.ne_none_iff_exists'.mp hput with ⟨a, ha⟩
  rw [(h.of_put ha).2.2.1] at hclosed
  cases hclosed

theorem sent?_eq (h : Turn wait f m m' e) (he : e.put? = none) : m'.sent? = m.sent? := by
  cases h with
  | deliver hphase hopen hroom => cases he
  | _ => rfl

theorem not_ended (h : Turn wait f m m' e) : m.phase ≠ .ended := by
  intro hended
  cases h with
  | drop hbusy hclosed hwait =>
    rw [hended] at hbusy
    cases hbusy
  | work hphase | deliver hphase | release hphase | leave hphase =>
    rw [hended] at hphase
    cases hphase

end Turn

/-- Nothing that a task has to deliver is lost: there is a queue, or the caller waits for all. -/
def Flow.Keeps (wait : Wait) (f : Flow α) : Prop := f.caller.isOpen = true ∨ wait = .all

theorem Move.now_eq (h : Move wait f f') : f'.now = f.now := by
  cases h <;> rfl

/-- What is lost is never kept again. -/
theorem Move.keeps (h : Move wait f f') (hkeeps : f'.Keeps wait) : f.Keeps wait := by
  cases h with
  | start hcaller | listen hcaller | take hcaller | settle hcaller | close hcaller =>
    rw [Flow.Keeps, hcaller]
    exact .inl rfl
  | turn hmembers hturn => exact hkeeps

end

end TxGateway.Scope
