import TxGateway.Schedule.Activity
import TxGateway.Schedule.EventLoop
import TxGateway.Settings

namespace TxGateway

/-! # Scopes

A scope runs tasks side by side and collects what they deliver. All tasks are started first, each up
to its first wait, before the caller looks at what has arrived.

* `Scope.drain` ends when every task has ended, with all that was delivered in order of arrival.
* `Scope.first` ends with the first delivery, or without one when every task has ended silently or
  the deadline has come. Tasks that are still open then run on or are broken off.
-/

/-- Where in time a step of the caller ends. What is due at that very instant has happened before
if the step ended by it, and happens afterwards if the step ended by a timer of its own. -/
structure Moment where
  instant : Instant
  settled : Bool
deriving DecidableEq, Repr

/-- Whether a call is over at a moment. A call that does not wait is over as soon as it is made. -/
def Moment.isPast (m : Moment) (c : CallTrace) : Bool :=
  c.ended < m.instant || (c.ended == m.instant && (m.settled || c.began == c.ended))

/-- What a caller's step led to: its result, when it ended, the calls that were over then and those
that were open. -/
structure Run (α : Type) where
  result : α
  moment : Moment
  calls : List CallTrace
  /-- Calls that are over only later. -/
  stragglers : List CallTrace

namespace Run

variable {α β : Type}

/-- A step that takes no time and calls nobody. -/
def done (result : α) (now : Instant) : Run α := ⟨result, ⟨now, false⟩, [], []⟩

def map (f : α → β) (r : Run α) : Run β := { r with result := f r.result }

end Run

namespace Scope

variable {α : Type}

/-- A task in a scope. What it ends with is delivered, unless that is `none` or the task crashed. -/
abbrev Task (α : Type) : Type := Timeline (Option α)

/-- What a task delivers at its start, when it never waits. -/
def atStart (start : Instant) (t : Task α) : List (Arrival α) :=
  match t.wakes with
  | [] => EventLoop.arrival start t.value.join
  | _ => []

/-- The task in the queue, when it waits. -/
def enqueued (t : Task α) : List (Waiting α) :=
  match t.wakes with
  | [] => []
  | due :: later => [⟨due, later, t.value.join⟩]

/-- What tasks that are started at an instant deliver, in order of arrival. -/
def arrivals (start : Instant) (tasks : List (Task α)) : List (Arrival α) :=
  tasks.flatMap (atStart start) ++ EventLoop.run (tasks.flatMap enqueued)

/-- When the last task ends. -/
def finish (start : Instant) (tasks : List (Task α)) : Instant :=
  tasks.foldl (fun latest t => max latest t.finish) start

/-- The calls of all tasks. -/
def calls (tasks : List (Task α)) : List CallTrace := tasks.flatMap Timeline.calls

/-- Waits for every task. -/
def drain (start : Instant) (tasks : List (Task α)) : Run (List (Arrival α)) :=
  ⟨arrivals start tasks, ⟨finish start tasks, true⟩, calls tasks, []⟩

/-- The first delivery, if it is there when the caller first looks or comes before the deadline. -/
def winner? (start deadline : Instant) (tasks : List (Task α)) : Option (Arrival α) :=
  (arrivals start tasks).head?.filter fun a => a.instant == start || a.instant < deadline

/-- When a wait without a delivery ends: with the last task, or at the deadline. -/
def givenUp (start deadline : Instant) (tasks : List (Task α)) : Moment :=
  let last := finish start tasks
  if last = start ∨ last < deadline then ⟨last, true⟩ else ⟨max start deadline, false⟩

/-- A call that is broken off at an instant. -/
def brokenOff (instant : Instant) (c : CallTrace) : CallTrace :=
  { c with ended := instant, fate := .aborted }

/-- Waits for the first delivery. -/
def first (start deadline : Instant) (policy : Stragglers) (tasks : List (Task α)) :
    Run (Option (Arrival α)) :=
  let winner := winner? start deadline tasks
  let moment := match winner with
    | some a => ⟨a.instant, true⟩
    | none => givenUp start deadline tasks
  let ended := (calls tasks).filter moment.isPast
  let stillOpen := (calls tasks).filter fun c => !moment.isPast c
  match policy with
  | .detach => ⟨winner, moment, ended, stillOpen⟩
  | .abort =>
    let cut := stillOpen.filter fun c => c.began ≤ moment.instant
    ⟨winner, moment, ended ++ cut.map (brokenOff moment.instant), []⟩

end Scope

end TxGateway
