import Mathlib.Algebra.Order.BigOperators.Group.List
import TxGateway.Proofs.Traffic.Runtime

namespace TxGateway

/-! # Every caller gets a result

At each instant threads and callers can only do so much; then time may go on. As no job is open
after its run would have ended, every caller gets its result if time goes on long enough, whatever
else is in the pool.

* `Runtime.rank` bounds what may still happen without a new use, and `exists_quiet` uses it up.
* `exists_later` lets time go on by one, and `exists_ended` ends a job.
-/

/-- How often a thread may still go on. -/
def Thread.todo {α : Type} (w : World) (t : Thread α) : Nat :=
  if t.stage.isWaiting then 1 + (t.stage.ahead w).calls.length else 0

theorem Thread.todo_resume_lt {α : Type} {w : World} {t : Thread α} {due : Instant}
    {rest : Option (Process α)} (h : t.stage = .waiting due rest) :
    (t.resume w).todo w < t.todo w := by
  have hwaits : t.stage.isWaiting = true := by
    rw [h]
    rfl
  unfold todo
  rw [if_pos hwaits]
  split
  · next hresumed =>
    -- all calls together stay the same, and one more of them has been made
    have hmade := length_lt_resume h hresumed
    have hall := congrArg (fun c => c.calls.length) (course_resume (w := w) t)
    simp only [course, Timeline.after, List.length_append] at hall
    lia
  · lia

theorem Wait.todo_leave_le (w : World) (now : Instant) (wait : Wait)
    (t : Thread (Option Delivery)) : (wait.leave now t).todo w ≤ t.todo w := by
  unfold leave
  split
  · unfold Thread.cutAt
    split
    · exact Nat.zero_le _
    · exact Nat.le_refl _
  · exact Nat.le_refl _

/-- A property that one element of a list loses holds of fewer. -/
theorem countP_modify_lt {α : Type} {p : α → Bool} {f : α → α} {l : List α} {k : Nat} {a : α}
    (ha : l[k]? = some a) (hp : p a = true) (hf : p (f a) = false) :
    (l.modify k f).countP p < l.countP p := by
  induction l generalizing k with
  | nil => cases ha
  | cons b rest ih =>
    cases k with
    | zero =>
      cases ha
      simp [hp, hf]
    | succ k =>
      rw [List.modify_succ_cons, List.countP_cons, List.countP_cons]
      exact Nat.add_lt_add_right (ih ha) _

namespace Runtime

variable {w : World} {g : Gateway} {r : Runtime}

/-- How much may still happen if nobody uses the gateway any more and time stands still. -/
def rank (w : World) (r : Runtime) : Nat :=
  (r.pool.map fun e => e.thread.todo w).sum + (r.jobs.map Job.ended).countP Option.isNone

theorem rank_resumed_lt {before after : List Entry} {e : Entry}
    {rest : Option (Process (Option Delivery))} (hpool : r.pool = before ++ e :: after)
    (hdue : e.thread.stage = .waiting r.now rest) :
    (r.resumed before after { e with thread := e.thread.resume w }).rank w < r.rank w := by
  have htodo := Thread.todo_resume_lt (w := w) hdue
  unfold rank
  rw [ended_resumed, hpool]
  simp only [resumed, List.map_append, List.map_cons, List.sum_append, List.sum_cons]
  lia

theorem rank_closed_lt {k : Nat} {j : Job} {taken : List (Arrival Delivery)}
    (hjob : r.jobs[k]? = some j)
    (hready : (r.view k j).ready? j.ticket.plan.wait r.now = some taken) :
    (r.closed k j taken).rank w < r.rank w := by
  have hopen : j.ended = none := Live.ended_of_ready hready
  unfold rank
  refine Nat.add_lt_add_of_le_of_lt ?_ ?_
  · simp only [closed, List.map_map]
    refine List.sum_le_sum fun e _ => ?_
    simp only [Function.comp_apply]
    split
    · exact Wait.todo_leave_le w r.now _ e.thread
    · exact Nat.le_refl _
  · rw [List.countP_map, List.countP_map]
    exact countP_modify_lt hjob (by simp [hopen]) rfl

/-- Nothing more can happen now. -/
structure Quiet (r : Runtime) : Prop where
  threads : ∀ e ∈ r.pool, ∀ rest, e.thread.stage ≠ .waiting r.now rest
  callers : ∀ (k : Nat) (j : Job), r.jobs[k]? = some j →
    (r.view k j).ready? j.ticket.plan.wait r.now = none

/-- All that can happen now may happen now. -/
theorem exists_quiet (w : World) (r : Runtime) :
    ∃ r', Steps w r r' ∧ r'.now = r.now ∧ r'.tickets = r.tickets ∧ r'.Quiet := by
  -- each thread that is due and each caller that may go on lowers the rank
  induction hrank : r.rank w using Nat.strong_induction_on generalizing r with
  | _ n ih =>
    subst hrank
    by_cases hthreads : ∃ e ∈ r.pool, ∃ rest, e.thread.stage = .waiting r.now rest
    · obtain ⟨e, he, rest, hdue⟩ := hthreads
      obtain ⟨before, after, hpool⟩ := List.append_of_mem he
      obtain ⟨r', hsteps, hnow, htickets, hquiet⟩ := ih _ (rank_resumed_lt hpool hdue) _ rfl
      rw [tickets_resumed] at htickets
      exact ⟨r', .head (.resume hpool hdue) hsteps, hnow, htickets, hquiet⟩
    by_cases hcallers : ∃ (k : Nat) (j : Job) (taken : List (Arrival Delivery)),
        r.jobs[k]? = some j ∧ (r.view k j).ready? j.ticket.plan.wait r.now = some taken
    · obtain ⟨k, j, taken, hjob, hready⟩ := hcallers
      obtain ⟨r', hsteps, hnow, htickets, hquiet⟩ := ih _ (rank_closed_lt hjob hready) _ rfl
      rw [tickets_closed] at htickets
      exact ⟨r', .head (.close hjob hready) hsteps, hnow, htickets, hquiet⟩
    · refine ⟨r, .refl, rfl, rfl, ?_, ?_⟩
      · exact fun e he rest hdue => hthreads ⟨e, he, rest, hdue⟩
      · intro k j hjob
        refine Option.eq_none_iff_forall_ne_some.mpr fun taken hready => ?_
        exact hcallers ⟨k, j, taken, hjob, hready⟩

/-- When nothing more can happen now, time goes on. -/
theorem Quiet.pass (hquiet : r.Quiet) (h : Coherent w g r) :
    Step w r { r with now := r.now + 1 } := by
  refine .pass (Nat.le_succ _) fun k j hjob => ?_
  have hfaithful := faithful_of_alone (Gateway.plan_brief _ _ _ _) (h.alone k j hjob)
  have hidle := hquiet.callers k j hjob
  constructor
  · intro t ht due rest hstage
    obtain ⟨-, hdue, -⟩ := (hfaithful.follows t ht).of_waiting hstage
    obtain ⟨e, he, hte⟩ := List.mem_filterMap.mp ht
    -- a thread that is due now would not be quiet
    have hne : due ≠ r.now := by
      rintro rfl
      split at hte
      · cases hte
        exact hquiet.threads e he rest hstage
      · cases hte
    lia
  · exact fun _ => hidle
  · intro _ hopen d hd
    cases hwait : j.ticket.plan.wait with
    | all =>
      rw [hwait] at hd
      cases hd
    | first deadline policy =>
      rw [hwait] at hd hidle
      cases hd
      exact (Live.ready?_first_eq_none hopen hidle).2.2

/-- Time may always go on, with the same uses. -/
theorem exists_later (h : Coherent w g r) (n : Nat) :
    ∃ r', Steps w r r' ∧ r'.now = r.now + n ∧ r'.tickets = r.tickets := by
  induction n with
  | zero => exact ⟨r, .refl, rfl, rfl⟩
  | succ n ih =>
    obtain ⟨r₁, hsteps₁, hnow₁, htickets₁⟩ := ih
    obtain ⟨r₂, hsteps₂, hnow₂, htickets₂, hquiet⟩ := exists_quiet w r₁
    have hsteps := hsteps₁.trans hsteps₂
    refine ⟨_, hsteps.tail (hquiet.pass (h.steps hsteps)), ?_, htickets₂.trans htickets₁⟩
    show r₂.now + 1 = _
    rw [hnow₂, hnow₁]
    rfl

/-- The caller of every job gets a result in the end. -/
theorem exists_ended (h : Coherent w g r) {k : Nat} {j : Job} (hjob : r.jobs[k]? = some j) :
    ∃ r' j', Steps w r r' ∧ r'.jobs[k]? = some j' ∧ j'.ticket = j.ticket ∧
      j'.ended.isSome = true := by
  -- no job is open later than its run ends, so it is enough to let that time pass
  let moment := j.ticket.plan.moment w j.ticket.start
  obtain ⟨r', hsteps, hnow, htickets⟩ := exists_later h (moment + 1)
  have hticket : r'.tickets[k]? = some j.ticket := by
    rw [htickets, tickets, List.getElem?_map, hjob]
    rfl
  obtain ⟨j', hjob', hsame⟩ := exists_job hticket
  refine ⟨r', j', hsteps, hjob', hsame, ?_⟩
  have hfaithful := faithful_of_alone (Gateway.plan_brief _ _ _ _)
    ((h.steps hsteps).alone k j' hjob')
  cases hended : j'.ended with
  | some x => rfl
  | none =>
    have hintime : r.now + (moment + 1) ≤ moment := by
      have hintime := hfaithful.intime hended
      rwa [hsame, hnow] at hintime
    lia

end Runtime

end TxGateway
