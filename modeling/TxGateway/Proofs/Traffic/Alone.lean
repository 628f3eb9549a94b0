import Mathlib.Data.List.Nodup
import TxGateway.Proofs.FirstDelivery
import TxGateway.Proofs.Traffic.Plan

namespace TxGateway

/-! # A plan on its own

The run of a plan tells what becomes of it in one go. Here the same plan takes its steps one at a
time: threads that are due go on in any order, what they deliver gets into a queue, and the caller
goes on when there is something to take from it, or when there is nothing to wait for. What is left
open is the order among things that happen at the same instant.

* `Live` is a plan on its way, `Live.Act` is what may happen at an instant, and `Live.MayPass` says
  how far time may go.
* `Alone` is the plan's way as a whole: where it may be, and when.
* `Faithful` is the invariant. It says that the plan ends when its run does, has made the calls of
  its run, and concludes from deliveries that only ties can tell from those of its run.
-/

/-! ## Threads that deliver -/

section

variable {α δ : Type}

/-- What a thread has delivered, if it has ended and was not silent. -/
def Thread.delivery? (t : Thread (Option δ)) : Option (Arrival δ) :=
  match t.stage with
  | .ended instant value => value.join.map fun v => ⟨instant, v⟩
  | _ => none

/-- Breaks a thread off that still waits, and with it the call that is open. -/
def Thread.cutAt (now : Instant) (t : Thread α) : Thread α :=
  match t.stage with
  | .waiting _ _ =>
    { t with
      calls := t.calls.map fun c => if now < c.ended then Scope.brokenOff now c else c
      stage := .cut }
  | _ => t

end

/-- What becomes of the threads when the caller goes on. -/
def Wait.leave (now : Instant) (wait : Wait) (t : Thread (Option Delivery)) :
    Thread (Option Delivery) :=
  match wait with
  | .first _ .abort => t.cutAt now
  | _ => t

/-! ## A plan on its way -/

/-- A plan on its way. -/
structure Live where
  threads : List (Thread (Option Delivery))
  queue : List (Arrival Delivery)
  /-- What the caller got, and when. -/
  ended : Option (Instant × Result)

namespace Live

/-- All threads have been started, each up to its first wait. -/
def begin (w : World) (start : Instant) (plan : Plan) : Live where
  threads := plan.tasks.map fun p => Thread.start w p start
  queue := (plan.tasks.map fun p => Thread.start w p start).filterMap Thread.delivery?
  ended := none

/-- Whether some thread waits. -/
def isBusy (l : Live) : Bool := l.threads.any fun t => t.stage.isWaiting

/-- What the caller takes out of the queue to go on, unless it has to wait. -/
def ready? (wait : Wait) (now : Instant) (l : Live) : Option (List (Arrival Delivery)) :=
  if l.ended.isSome then none
  else
    match wait with
    | .all => if l.isBusy then none else some l.queue
    | .first deadline _ =>
      match l.queue with
      | a :: _ => some [a]
      | [] => if l.isBusy && now < deadline then none else some []

/-- The queue when a thread has gone on. A queue that nobody listens to takes nothing. -/
def receive (l : Live) (t : Thread (Option Delivery)) : List (Arrival Delivery) :=
  if l.ended.isSome then l.queue else l.queue ++ t.delivery?.toList

/-- The caller goes on with what it has taken. -/
def close (plan : Plan) (now : Instant) (l : Live) (taken : List (Arrival Delivery)) : Live where
  threads := l.threads.map (plan.wait.leave now)
  queue := l.queue
  ended := some (now, plan.conclude taken)

/-- Time may go on to an instant: no thread is due before, and no caller has to go on before. -/
structure MayPass (wait : Wait) (now t : Instant) (l : Live) : Prop where
  due : ∀ s ∈ l.threads, ∀ due rest, s.stage = .waiting due rest → t ≤ due
  idle : now < t → l.ready? wait now = none
  deadline : now < t → l.ended = none → ∀ d ∈ wait.deadline?, t ≤ d

/-- What may happen to a plan at an instant. -/
inductive Act (w : World) (plan : Plan) (now : Instant) : Live → Live → Prop
  /-- A thread that is due goes on. -/
  | resume {l : Live} {before after : List (Thread (Option Delivery))}
      {t : Thread (Option Delivery)} {rest : Option (Process (Option Delivery))}
      (hthreads : l.threads = before ++ t :: after) (hdue : t.stage = .waiting now rest) :
      Act w plan now l
        { l with threads := before ++ t.resume w :: after, queue := l.receive (t.resume w) }
  /-- The caller goes on. -/
  | close {l : Live} {taken : List (Arrival Delivery)}
      (hready : l.ready? plan.wait now = some taken) : Act w plan now l (l.close plan now taken)

end Live

/-- A plan that has begun at an instant, and has nothing else beside it, may have come so far. -/
inductive Alone (w : World) (plan : Plan) (start : Instant) : Instant → Live → Prop
  | begin : Alone w plan start start (.begin w start plan)
  | pass {now t : Instant} {l : Live} (h : Alone w plan start now l) (hle : now ≤ t)
      (hpass : l.MayPass plan.wait now t) : Alone w plan start t l
  | act {now : Instant} {l l' : Live} (h : Alone w plan start now l)
      (hact : l.Act w plan now l') : Alone w plan start now l'

/-! ## What a caller may conclude from -/

/-- Deliveries that a caller may go on with. All of them are taken in an order of time, or the
earliest. Ties are open: among deliveries at the same instant, and between one and the deadline. -/
def Wait.MayTake {δ : Type} (start : Instant) (arrivals taken : List (Arrival δ)) : Wait → Prop
  | .all => taken.Perm arrivals ∧ taken.Pairwise fun a b => a.instant ≤ b.instant
  | .first deadline _ =>
    (∃ a ∈ arrivals, (∀ b ∈ arrivals, a.instant ≤ b.instant) ∧
      (a.instant = start ∨ a.instant ≤ deadline) ∧ taken = [a]) ∨
    ((∀ a ∈ arrivals, start < a.instant ∧ deadline ≤ a.instant) ∧ taken = [])

/-- No two deliveries come at the same instant, and none at the very deadline. -/
structure Wait.Untied {δ : Type} (start : Instant) (arrivals : List (Arrival δ)) (wait : Wait) :
    Prop where
  instants : (arrivals.map Arrival.instant).Nodup
  deadline : ∀ d ∈ wait.deadline?, ∀ a ∈ arrivals, a.instant = d → a.instant = start

theorem Wait.mayTake_first {δ : Type} {start : Instant} {tasks : List (Scope.Task δ)}
    (deadline : Instant) (policy : Stragglers) (htimed : Scope.WellTimed start tasks) :
    (Wait.first deadline policy).MayTake start (Scope.arrivals start tasks)
      (Scope.first start deadline policy tasks).result.toList := by
  rcases Scope.first_cases deadline policy htimed with
    ⟨a, ha, hleast, hintime, hresult, -⟩ | ⟨hlate, hresult, -⟩
  · exact .inl ⟨a, ha, hleast, hintime.imp_right Nat.le_of_lt, by rw [hresult]; rfl⟩
  · exact .inr ⟨hlate, by rw [hresult]; rfl⟩

namespace Plan

variable {w : World} {start : Instant} {plan : Plan}

/-- What the tasks of the plan deliver. -/
def arrivals (w : World) (start : Instant) (plan : Plan) : List (Arrival Delivery) :=
  Scope.arrivals start (plan.timelines w start)

/-- A result that the plan may have, depending on ties only. -/
def Admits (w : World) (start : Instant) (plan : Plan) (x : Result) : Prop :=
  ∃ taken, plan.wait.MayTake start (plan.arrivals w start) taken ∧ x = plan.conclude taken

theorem wellTimed (w : World) (start : Instant) (plan : Plan) :
    Scope.WellTimed start (plan.timelines w start) := by
  intro t ht
  obtain ⟨p, -, rfl⟩ := List.mem_map.mp ht
  exact p.gapless w start

theorem admits_run (w : World) (start : Instant) (plan : Plan) :
    plan.Admits w start (plan.run w start).result := by
  have htimed := plan.wellTimed w start
  unfold Admits run
  cases hwait : plan.wait with
  | all => exact ⟨_, ⟨.refl _, Scope.arrivals_sorted htimed⟩, rfl⟩
  | first deadline policy => exact ⟨_, Wait.mayTake_first deadline policy htimed, rfl⟩

end Plan

/-- Without ties there is no choice. -/
theorem Wait.MayTake.unique {δ : Type} {start : Instant} {arrivals taken taken' : List (Arrival δ)}
    {wait : Wait} (huntied : wait.Untied start arrivals) (h : wait.MayTake start arrivals taken)
    (h' : wait.MayTake start arrivals taken') : taken = taken' := by
  have hinjective := List.inj_on_of_nodup_map huntied.instants
  cases wait with
  | all =>
    refine List.Perm.eq_of_pairwise ?_ h.2 h'.2 (h.1.trans h'.1.symm)
    intro a b ha hb hab hba
    exact hinjective (h.1.mem_iff.mp ha) (h'.1.mem_iff.mp hb) (Nat.le_antisymm hab hba)
  | first deadline policy =>
    have hdeadline := huntied.deadline deadline rfl
    rcases h with ⟨a, ha, hleast, hintime, rfl⟩ | ⟨hlate, rfl⟩ <;>
      rcases h' with ⟨b, hb, hleast', hintime', rfl⟩ | ⟨hlate', rfl⟩
    · rw [hinjective ha hb (Nat.le_antisymm (hleast b hb) (hleast' a ha))]
    · have hlate := hlate' a ha
      have htie := hdeadline a ha
      lia
    · have hlate := hlate b hb
      have htie := hdeadline b hb
      lia
    · rfl

theorem Plan.Admits.unique {w : World} {start : Instant} {plan : Plan} {x y : Result}
    (huntied : plan.wait.Untied start (plan.arrivals w start)) (hx : plan.Admits w start x)
    (hy : plan.Admits w start y) : x = y := by
  obtain ⟨taken, htaken, rfl⟩ := hx
  obtain ⟨taken', htaken', rfl⟩ := hy
  rw [htaken.unique huntied htaken']

end TxGateway
