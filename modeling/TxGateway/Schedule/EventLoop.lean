import TxGateway.Provider.Call

namespace TxGateway

/-! # The event loop

Tasks that wait are resumed one at a time. The next is the one whose wait ends first, and of
several at the same instant the one whose wait began first. A task that has to wait again goes to
the end of the queue, so the queue is always in the order in which the waits began.

* `EventLoop.next?` takes the next task out of the queue.
* `EventLoop.run` resumes tasks until none waits, and lists what they deliver.
-/

/-- A task that waits. -/
structure Waiting (α : Type) where
  /-- When the present wait ends. -/
  due : Instant
  /-- When the waits after it will end. -/
  later : List Instant
  /-- What the task delivers when it ends; it may end silently. -/
  delivers : Option α
deriving DecidableEq, Repr

/-- Something that was delivered. -/
structure Arrival (α : Type) where
  instant : Instant
  value : α
deriving DecidableEq, Repr

namespace EventLoop

variable {α : Type}

/-- The task to resume next, and the others in their order. -/
def next? : List (Waiting α) → Option (Waiting α × List (Waiting α))
  | [] => none
  | t :: rest =>
    match next? rest with
    | none => some (t, [])
    | some (u, others) => if t.due ≤ u.due then some (t, rest) else some (u, t :: others)

/-- How often the tasks of a queue will still be resumed. -/
def pending : List (Waiting α) → Nat
  | [] => 0
  | t :: queue => t.later.length + 1 + pending queue

theorem pending_nil : pending ([] : List (Waiting α)) = 0 := rfl

theorem pending_cons (t : Waiting α) (queue : List (Waiting α)) :
    pending (t :: queue) = t.later.length + 1 + pending queue := rfl

theorem pending_append (a b : List (Waiting α)) : pending (a ++ b) = pending a + pending b := by
  induction a with
  | nil => simp [pending]
  | cons t a ih => rw [List.cons_append, pending_cons, pending_cons, ih]; omega

theorem pending_next? {queue others : List (Waiting α)} {t : Waiting α}
    (h : next? queue = some (t, others)) :
    pending queue = t.later.length + 1 + pending others := by
  induction queue generalizing t others with
  | nil => simp [next?] at h
  | cons u rest ih =>
    simp only [next?] at h
    split at h
    · next hn =>
      cases h
      cases rest with
      | nil => simp [pending]
      | cons v rest => simp only [next?] at hn; split at hn <;> (try split at hn) <;> simp at hn
    · next v vs hv =>
      split at h
      · cases h; exact pending_cons _ _
      · cases h
        have := ih hv
        rw [pending_cons, pending_cons, this]
        omega

/-- Something delivered at an instant, if the task does not end silently. -/
def arrival (instant : Instant) (delivers : Option α) : List (Arrival α) :=
  (delivers.map fun value => ⟨instant, value⟩).toList

/-- Resumes tasks until none waits. -/
def run (queue : List (Waiting α)) : List (Arrival α) :=
  match _h : next? queue with
  | none => []
  | some (t, others) =>
    match hl : t.later with
    | [] => arrival t.due t.delivers ++ run others
    | due :: later => run (others ++ [{ t with due, later }])
termination_by pending queue
decreasing_by
  · have := pending_next? _h; omega
  · have := pending_next? _h
    simp only [pending_append, pending_cons, pending_nil, hl, List.length_cons] at this ⊢
    omega

end EventLoop

end TxGateway
