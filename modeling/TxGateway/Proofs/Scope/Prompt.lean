import TxGateway.Proofs.Scope.Progress
import TxGateway.Proofs.Traffic.Alone

namespace TxGateway.Scope

/-! # Scopes without delay

How long a task or the caller may be held up before it makes its next step is left open so far. If
nobody is held up, so that time goes on only when nothing can happen, the caller returns at the very
instant that `drain` and `first` tell, with deliveries that only ties can tell from theirs.

* `Prompt` is a step of a scope in which nobody is held up.
* `Punctual` is the invariant, and `Punctual.close` is about the step with which the caller returns.
* `exists_returned` says that the caller does return.
* `queue_serves_every_task` is what the tasks of a scope and its caller may rely on.
-/

variable {α : Type} {wait : Wait} {start : Instant} {tasks : List (Task α)} {f f' : Flow α}
  {m m' : Member α} {e : Effect α}

/-- What a caller gets out of a scope that it has for itself. -/
def collected (wait : Wait) (start : Instant) (tasks : List (Task α)) : Run (List (Arrival α)) :=
  match wait with
  | .all => drain start tasks
  | .first deadline policy => (first start deadline policy tasks).map Option.toList

/-- Something happens, or time goes on because nothing can happen, until somebody is due. -/
inductive Prompt (wait : Wait) : Flow α → Flow α → Prop
  | move {f f' : Flow α} (h : Move wait f f') : Prompt wait f f'
  | pass {f : Flow α} {t : Instant} (hlt : f.now < t) (hquiet : Quiet wait f)
      (hdue : ∀ m ∈ f.members, m.phase = .working → t ≤ m.task.finish)
      (hdeadline : f.caller.isOpen = true → ∀ d ∈ wait.deadline?, t ≤ d) :
      Prompt wait f { f with now := t }

abbrev PromptSteps (wait : Wait) : Flow α → Flow α → Prop := Relation.ReflTransGen (Prompt wait)

theorem Prompt.step (h : Prompt wait f f') : Step wait f f' := by
  cases h with
  | move hmove => exact .move hmove
  | pass hlt hquiet hdue hdeadline => exact .pass (Nat.le_of_lt hlt)

/-- A task delivers at the instant at which it ends. -/
structure Member.Punctual (now : Instant) (m : Member α) : Prop where
  busy : m.phase.isBusy = true → now ≤ m.task.finish
  sent : ∀ a, m.sent? = some a → a.instant ≤ m.task.finish

/-- Nobody has been held up so far. -/
structure Punctual (wait : Wait) (start : Instant) (tasks : List (Task α)) (f : Flow α) : Prop where
  start_le : start ≤ f.now
  starting : f.caller.rest ≠ [] → f.now = start
  members : ∀ m ∈ f.members, m.Punctual f.now
  intime : f.caller.isOpen = true → f.now ≤ (collected wait start tasks).moment.instant
  returned : ∀ instant taken, f.caller = .returned instant taken →
    instant = (collected wait start tasks).moment.instant ∧
      wait.MayTake start (arrivals start tasks) taken

namespace Punctual

variable (h : Punctual wait start tasks f) (hsound : Sound wait tasks f)

include h hsound

/-- What has been delivered is what the schedule of the tasks says. -/
theorem mem_arrivals_of_mem_sent (htimed : WellTimed start tasks) {a : Arrival α}
    (ha : a ∈ f.sent) : a ∈ arrivals start tasks := by
  rcases List.mem_filterMap.mp (hsound.recorded.perm.mem_iff.mp ha) with ⟨m, hm, hsent⟩
  rcases (hsound.recorded.members m hm).sent a hsent with ⟨hvalue, hle⟩
  have hge := (h.members m hm).sent a hsent
  exact (mem_arrivals htimed).mpr
    ⟨m.task, hsound.staffed.mem_tasks hm, hvalue, Nat.le_antisymm hle hge⟩

/-- What a task that has nothing more to deliver has delivered. -/
theorem sent?_eq (hkeeps : f.Keeps wait) (hm : m ∈ f.members) (hidle : m.phase.isBusy = false) :
    m.sent? = delivery? m.task := by
  rcases (hsound.recorded.members m hm).kept hkeeps hidle with ⟨-, hkept⟩
  rw [delivery?, ← hkept]
  cases hsent : m.sent? with
  | none => rfl
  | some a =>
    have hle := ((hsound.recorded.members m hm).sent a hsent).2
    have hge := (h.members m hm).sent a hsent
    rw [Nat.le_antisymm hle hge]
    rfl

/-- What the schedule says has been delivered, or is still to come. -/
theorem mem_sent_or_busy (htimed : WellTimed start tasks) (hkeeps : f.Keeps wait)
    (hrest : f.caller.rest = []) {a : Arrival α} (ha : a ∈ arrivals start tasks) :
    a ∈ f.sent ∨ ∃ m ∈ f.members, m.phase.isBusy = true ∧ m.task.finish = a.instant := by
  rcases (mem_arrivals htimed).mp ha with ⟨t, ht, hvalue, hfinish⟩
  have htasks := hsound.staffed.tasks_eq
  rw [hrest, List.append_nil] at htasks
  rw [← htasks] at ht
  rcases List.mem_map.mp ht with ⟨m, hm, rfl⟩
  cases hbusy : m.phase.isBusy with
  | true => exact .inr ⟨m, hm, hbusy, hfinish⟩
  | false =>
    refine .inl (hsound.recorded.perm.mem_iff.mpr (List.mem_filterMap.mpr ⟨m, hm, ?_⟩))
    rw [h.sent?_eq hsound hkeeps hm hbusy, delivery?, hvalue, hfinish]
    rfl

end Punctual

/-! ## The instant at which the caller goes on -/

/-- As long as the caller has to wait, it would have to wait on its own as well. -/
theorem Punctual.le_moment_of_quiet (h : Punctual wait start tasks f) (hsound : Sound wait tasks f)
    (htimed : WellTimed start tasks) (hquiet : Quiet wait f) (hopen : f.caller.isOpen = true)
    {t : Instant} (hdue : ∀ m ∈ f.members, m.phase = .working → t ≤ m.task.finish)
    (hdeadline : ∀ d ∈ wait.deadline?, t ≤ d) :
    t ≤ (collected wait start tasks).moment.instant := by
  rcases hquiet.listening hsound hopen with ⟨hcaller, hqueue, ⟨m, hm, hworking, -⟩, -⟩
  have hlast := hdue m hm hworking
  have htask := hsound.staffed.mem_tasks hm
  cases wait with
  | all => exact hlast.trans (le_finish_of_mem htask)
  | first deadline policy =>
    have hnone : f.sent = [] := hsound.placed.taken_eq_nil hcaller (by simp)
    refine le_first htimed ?_ ⟨m.task, htask, hlast⟩ ?_
    · -- nothing has been delivered, so whatever arrives comes from a task that is still at work
      intro a ha
      have hrest : f.caller.rest = [] := by rw [hcaller]; rfl
      rcases h.mem_sent_or_busy hsound htimed (.inl hopen) hrest ha with
        hsent | ⟨u, hu, hbusy, hfinish⟩
      · rw [hnone] at hsent
        cases hsent
      · rw [← hfinish]
        rcases hquiet.ended_or_working hsound hu with hended | ⟨hworking, -⟩
        · rw [hended] at hbusy
          cases hbusy
        · exact hdue u hu hworking
    · exact (hdeadline deadline rfl).trans (Nat.le_max_right _ _)

section

variable (h : Punctual wait start tasks f) (hsound : Sound wait tasks f)
  (htimed : WellTimed start tasks) {taken : List (Arrival α)} (hcaller : f.caller = .settled taken)

include h hsound htimed hcaller

/-- Who waits for all returns with the end of the last task, and with all that arrives. -/
theorem Punctual.close_all (hwait : wait = .all) :
    f.now = finish start tasks ∧ taken.Perm (arrivals start tasks) ∧
      taken.Pairwise fun a b => a.instant ≤ b.instant := by
  subst hwait
  rcases hsound.placed.of_settled hcaller with ⟨-, ⟨htaken, -, hfinish⟩, hhandles⟩
  rw [htaken]
  refine ⟨?_, ?_, hsound.recorded.sorted⟩
  · exact Nat.le_antisymm (h.intime (by rw [hcaller]; rfl)) (finish_le h.start_le hfinish)
  · have hidle := hsound.staffed.idle (hhandles rfl)
    have htasks := hsound.staffed.tasks_eq
    rw [hcaller, show (Caller.settled taken).rest = [] from rfl, List.append_nil] at htasks
    -- each task has delivered what the schedule says, and nothing else
    have hsent : f.members.filterMap Member.sent? = tasks.filterMap delivery? := by
      rw [← htasks, List.filterMap_map]
      exact List.filterMap_congr fun m hm => h.sent?_eq hsound (.inr rfl) hm (hidle m hm)
    refine hsound.recorded.perm.trans ?_
    rw [hsent]
    exact (arrivals_perm htimed).symm

/-- What arrives has been delivered, or comes no earlier than now. -/
theorem Punctual.mem_sent_or_le {a : Arrival α} (ha : a ∈ arrivals start tasks) :
    a ∈ f.sent ∨ f.now ≤ a.instant := by
  have hkeeps : f.Keeps wait := .inl (by rw [hcaller]; rfl)
  rcases h.mem_sent_or_busy hsound htimed hkeeps (by rw [hcaller]; rfl) ha with
    hsent | ⟨m, hm, hbusy, hfinish⟩
  · exact .inl hsent
  · rw [← hfinish]
    exact .inr ((h.members m hm).busy hbusy)

/-- Who waits for the first returns with it, or without anything if it is not in time. -/
theorem Punctual.close_first {deadline : Instant} {policy : Stragglers}
    (hwait : wait = .first deadline policy) (hdeadline : start < deadline) :
    f.now = (first start deadline policy tasks).moment.instant ∧
      wait.MayTake start (arrivals start tasks) taken := by
  subst hwait
  have hstart := h.start_le
  have hintime : f.now ≤ (first start deadline policy tasks).moment.instant :=
    h.intime (by rw [hcaller]; rfl)
  have hlate : f.now ≤ max start deadline :=
    hintime.trans (first_le htimed (.inr (.inr (Nat.le_refl _))))
  have hcome := fun a ha => h.mem_sent_or_le hsound htimed hcaller (a := a) ha
  rcases (hsound.placed.of_settled hcaller).2.1 with
    ⟨a, rest, hsent, rfl⟩ | ⟨rfl, hover, hlater⟩ | ⟨rfl, hnone, hsilent⟩
  · -- something has been delivered, and this came first
    have ha : a ∈ f.sent := by simp [hsent]
    have hpast := hsound.recorded.past a ha
    have harrives := h.mem_arrivals_of_mem_sent hsound htimed ha
    have hsorted := hsound.recorded.sorted
    rw [hsent, List.pairwise_cons] at hsorted
    refine ⟨Nat.le_antisymm hintime (first_le htimed (.inl ⟨a, harrives, hpast⟩)), ?_⟩
    refine .inl ⟨a, harrives, ?_, by lia, rfl⟩
    intro b hb
    rcases hcome b hb with hb | hb
    · rw [hsent] at hb
      rcases List.mem_cons.mp hb with rfl | hb
      · exact Nat.le_refl _
      · exact hsorted.1 b hb
    · exact hpast.trans hb
  · -- the deadline has come, and whatever arrives does so no earlier
    refine ⟨Nat.le_antisymm hintime (first_le htimed (.inr (.inr (by lia)))), .inr ⟨?_, rfl⟩⟩
    intro b hb
    have hb : deadline ≤ b.instant := by
      rcases hcome b hb with hb | hb
      · exact hlater b hb
      · exact hover.trans hb
    exact ⟨Nat.lt_of_lt_of_le hdeadline hb, hb⟩
  · -- every task has ended, and nothing arrives at all
    have hnever : arrivals start tasks = [] := by
      refine List.eq_nil_iff_forall_not_mem.mpr fun b hb => ?_
      rcases (mem_arrivals htimed).mp hb with ⟨t, ht, hvalue, -⟩
      rw [(hsilent t ht).1] at hvalue
      cases hvalue
    have hfinish := finish_le hstart fun t ht => (hsilent t ht).2
    refine ⟨Nat.le_antisymm hintime (first_le htimed (.inr (.inl ⟨hnever, hfinish⟩))), ?_⟩
    rw [hnever]
    exact .inr ⟨by simp, rfl⟩

end

/-- The step with which the caller returns. -/
theorem Punctual.close (h : Punctual wait start tasks f) (hsound : Sound wait tasks f)
    (htimed : WellTimed start tasks) (hdeadline : ∀ d ∈ wait.deadline?, start < d)
    {taken : List (Arrival α)} (hcaller : f.caller = .settled taken) :
    f.now = (collected wait start tasks).moment.instant ∧
      wait.MayTake start (arrivals start tasks) taken := by
  cases wait with
  | all => exact h.close_all hsound htimed hcaller rfl
  | first deadline policy => exact h.close_first hsound htimed hcaller rfl (hdeadline deadline rfl)

/-! ## Scopes in which nobody is held up -/

theorem Turn.punctual (h : Turn wait f m m' e) (hm : m.Punctual f.now) : m'.Punctual f.now := by
  cases h with
  | work hphase hdue =>
    refine ⟨?_, hm.sent⟩
    intro _
    exact hm.busy (by rw [hphase]; rfl)
  | deliver hphase hopen hroom =>
    constructor
    · intro hbusy
      cases hbusy
    · intro a ha
      cases ha
      exact hm.busy (by rw [hphase]; rfl)
  | drop | release | leave =>
    refine ⟨?_, hm.sent⟩
    intro hbusy
    cases hbusy

theorem punctual_begin (wait : Wait) (htimed : WellTimed start tasks) :
    Punctual wait start tasks (.begin start tasks) where
  start_le := Nat.le_refl _
  starting := fun _ => rfl
  members := by
    intro m hm
    cases hm
  intime := by
    intro _
    cases wait with
    | all => exact le_finish start tasks
    | first deadline policy => exact start_le_first htimed
  returned := by
    intro instant taken hcaller
    cases hcaller

theorem Punctual.move (h : Punctual wait start tasks f) (hsound : Sound wait tasks f)
    (htimed : WellTimed start tasks) (hdeadline : ∀ d ∈ wait.deadline?, start < d)
    (hmove : Move wait f f') : Punctual wait start tasks f' := by
  cases hmove with
  | @start t rest hcaller =>
    have hnow : f.now = start := h.starting (by rw [hcaller]; simp [Caller.rest])
    refine ⟨h.start_le, fun _ => hnow, ?_, ?_, ?_⟩
    · refine List.forall_mem_append.mpr ⟨h.members, ?_⟩
      intro m hm
      rw [List.mem_singleton.mp hm]
      refine ⟨?_, by simp⟩
      intro _
      have ht : t ∈ tasks := by
        rw [← hsound.staffed.tasks_eq, hcaller]
        simp [Caller.rest]
      show f.now ≤ t.finish
      rw [hnow]
      exact (htimed t ht).le
    · intro _
      exact h.intime (by rw [hcaller]; rfl)
    · intro instant taken hreturned
      cases hreturned
  | listen hcaller | settle hcaller =>
    refine ⟨h.start_le, by simp [Caller.rest], h.members, ?_, by simp⟩
    intro _
    exact h.intime (by rw [hcaller]; rfl)
  | @take a queue taken hcaller hqueue =>
    refine ⟨h.start_le, by simp, h.members, ?_, ?_⟩
    · intro _
      exact h.intime (by rw [hcaller]; rfl)
    · intro instant taken hreturned
      cases wait <;> cases hreturned
  | close hcaller hjoined =>
    refine ⟨h.start_le, by simp [Caller.rest], h.members, ?_, ?_⟩
    · intro hopen
      cases hopen
    · intro instant taken hreturned
      cases hreturned
      exact h.close hsound htimed hdeadline hcaller
  | @turn before after m m' e hmembers hturn =>
    refine ⟨h.start_le, h.starting, ?_, h.intime, h.returned⟩
    have hall := h.members
    rw [hmembers, List.forall_mem_append, List.forall_mem_cons] at hall
    show ∀ u ∈ before ++ m' :: after, _
    rw [List.forall_mem_append, List.forall_mem_cons]
    exact ⟨hall.1, hturn.punctual hall.2.1, hall.2.2⟩

theorem Punctual.pass (h : Punctual wait start tasks f) (hsound : Sound wait tasks f)
    (htimed : WellTimed start tasks) (hquiet : Quiet wait f) {t : Instant} (hlt : f.now < t)
    (hdue : ∀ m ∈ f.members, m.phase = .working → t ≤ m.task.finish)
    (hdeadline : f.caller.isOpen = true → ∀ d ∈ wait.deadline?, t ≤ d) :
    Punctual wait start tasks { f with now := t } where
  start_le := h.start_le.trans (Nat.le_of_lt hlt)
  starting := by
    intro hrest
    -- a caller who has still to start tasks is not held up
    cases hcaller : f.caller with
    | starting rest =>
      have hlistens := (hquiet.listening hsound (by rw [hcaller]; rfl)).1
      rw [hcaller] at hlistens
      cases hlistens
    | listening taken | settled taken | returned instant taken =>
      rw [hcaller] at hrest
      exact absurd rfl hrest
  members := by
    intro m hm
    refine ⟨?_, (h.members m hm).sent⟩
    intro hbusy
    rcases hquiet.ended_or_working hsound hm with hended | ⟨hworking, -⟩
    · rw [hended] at hbusy
      cases hbusy
    · exact hdue m hm hworking
  intime := by
    intro hopen
    exact h.le_moment_of_quiet hsound htimed hquiet hopen hdue (hdeadline hopen)
  returned := h.returned

theorem PromptSteps.steps (h : PromptSteps wait f f') : Steps wait f f' := by
  induction h with
  | refl => exact .refl
  | tail _ hstep ih => exact ih.tail hstep.step

theorem PromptSteps.punctual (h : PromptSteps wait (.begin start tasks) f)
    (htimed : WellTimed start tasks) (hdeadline : ∀ d ∈ wait.deadline?, start < d) :
    Punctual wait start tasks f := by
  induction h with
  | refl => exact punctual_begin wait htimed
  | tail hsteps hstep ih =>
    have hsound := (PromptSteps.steps hsteps).sound
    cases hstep with
    | move hmove => exact ih.move hsound htimed hdeadline hmove
    | pass hlt hquiet hdue hd => exact ih.pass hsound htimed hquiet hlt hdue hd

/-! ## The caller returns -/

/-- All that can happen now may happen now. -/
theorem exists_quiet (wait : Wait) (f : Flow α) :
    ∃ f', PromptSteps wait f f' ∧ f'.now = f.now ∧ Quiet wait f' := by
  induction hrank : f.rank using Nat.strong_induction_on generalizing f with
  | _ n ih =>
    subst hrank
    by_cases hquiet : Quiet wait f
    · exact ⟨f, .refl, rfl, hquiet⟩
    · rw [Quiet, not_forall_not] at hquiet
      rcases hquiet with ⟨f₁, hmove⟩
      rcases ih _ hmove.rank_lt f₁ rfl with ⟨f', hsteps, hnow, hquiet⟩
      exact ⟨f', .head (.move hmove) hsteps, hnow.trans hmove.now_eq, hquiet⟩

/-- When nothing can happen any more, time goes on. -/
theorem Quiet.pass (hquiet : Quiet wait f) (hsound : Sound wait tasks f) :
    Prompt wait f { f with now := f.now + 1 } := by
  refine .pass (Nat.lt_succ_self _) hquiet ?_ ?_
  · intro m hm hworking
    rcases hquiet.ended_or_working hsound hm with hended | ⟨-, hlater⟩
    · rw [hworking] at hended
      cases hended
    · exact hlater
  · intro hopen d hd
    exact (hquiet.listening hsound hopen).2.2.2 d hd

/-- Time may always go on. -/
theorem exists_later (h : Steps wait (.begin start tasks) f) (n : Nat) :
    ∃ f', PromptSteps wait f f' ∧ f'.now = f.now + n := by
  induction n with
  | zero => exact ⟨f, .refl, rfl⟩
  | succ n ih =>
    -- whatever can happen at this instant happens before the next one
    rcases ih with ⟨f₁, hsteps₁, hnow₁⟩
    rcases exists_quiet wait f₁ with ⟨f₂, hsteps₂, hnow₂, hquiet⟩
    have hsteps : PromptSteps wait f f₂ := hsteps₁.trans hsteps₂
    have hreached : Steps wait (.begin start tasks) f₂ := h.trans hsteps.steps
    refine ⟨_, hsteps.tail (hquiet.pass hreached.sound), ?_⟩
    show f₂.now + 1 = _
    rw [hnow₂, hnow₁]
    rfl

/-- The caller returns if time goes on for long enough. -/
theorem exists_returned (h : PromptSteps wait (.begin start tasks) f)
    (htimed : WellTimed start tasks) (hdeadline : ∀ d ∈ wait.deadline?, start < d) :
    ∃ f', PromptSteps wait f f' ∧ ∃ instant taken, f'.caller = .returned instant taken := by
  -- nobody waits for longer than it would have to on its own, so let that time pass
  let moment := (collected wait start tasks).moment.instant
  rcases exists_later h.steps (moment + 1) with ⟨f', hsteps, hnow⟩
  refine ⟨f', hsteps, ?_⟩
  have hpunctual := PromptSteps.punctual (h.trans hsteps) htimed hdeadline
  cases hcaller : f'.caller with
  | returned instant taken => exact ⟨instant, taken, rfl⟩
  | starting rest | listening taken | settled taken =>
    have hintime : f'.now ≤ moment := hpunctual.intime (by rw [hcaller]; rfl)
    lia

/-! ## What everybody may rely on -/

theorem mayTake_collected (wait : Wait) (htimed : WellTimed start tasks) :
    wait.MayTake start (arrivals start tasks) (collected wait start tasks).result := by
  cases wait with
  | all => exact ⟨.refl _, arrivals_sorted htimed⟩
  | first deadline policy => exact Wait.mayTake_first deadline policy htimed

/-- In whatever order the tasks of a scope and its caller go on, and whatever the tasks end with:

* The queue never holds more than it can, and who has something to deliver can do so at once.
* What has been delivered is in the queue or has been taken, in the order of delivery; it comes from
  the tasks, and from none of them twice.
* Only so much can happen before time goes on. When nothing can happen and the caller has not
  returned, some task has not ended, and the deadline has not come. A caller who finds the queue empty
  need not listen any longer as soon as all tasks have let go of their handles.
* Who waits for all returns when every task has ended, with everything that they had to deliver. Who
  waits for the first returns with what was delivered first. It returns without anything only if the
  deadline has come and nothing was delivered before, or if every task has ended without delivering.
* If nobody is held up, the caller does return, at the instant that `drain` and `first` tell, and with
  the same deliveries unless there are ties. -/
theorem queue_serves_every_task (h : Steps wait (.begin start tasks) f) :
    (f.capacity = max tasks.length 1 ∧ f.queue.length ≤ f.capacity ∧
      ∀ m ∈ f.members, ∀ value, m.phase = .delivering value → f.caller.isOpen = true →
        ∃ m', Turn wait f m m' (.puts ⟨f.now, value⟩)) ∧
    ((f.caller.isOpen = true → f.caller.taken ++ f.queue = f.sent) ∧
      (f.sent.Pairwise fun a b => a.instant ≤ b.instant) ∧
      (f.sent.map Arrival.value).Subperm (tasks.filterMap fun t => t.value.join)) ∧
    ((∀ f', Move wait f f' → f'.rank < f.rank) ∧
      (Quiet wait f → f.caller.isOpen = true →
        (∃ t ∈ tasks, f.now < t.finish) ∧ ∀ d ∈ wait.deadline?, f.now < d) ∧
      ∀ taken, f.caller = .listening taken → f.queue = [] →
        (∀ m ∈ f.members, m.phase.holds = false) →
        Move wait f { f with caller := .settled taken }) ∧
    (∀ instant taken, f.caller = .returned instant taken →
      Concludes wait tasks f.sent instant taken) ∧
    (WellTimed start tasks → (∀ d ∈ wait.deadline?, start < d) →
      PromptSteps wait (.begin start tasks) f →
      (∀ instant taken, f.caller = .returned instant taken →
        instant = (collected wait start tasks).moment.instant ∧
        wait.MayTake start (arrivals start tasks) taken ∧
        (wait.Untied start (arrivals start tasks) →
          taken = (collected wait start tasks).result)) ∧
      ∃ f', PromptSteps wait f f' ∧ ∃ instant taken, f'.caller = .returned instant taken) := by
  have hsound := h.sound
  refine ⟨⟨hsound.staffed.capacity_eq, hsound.length_queue_le, ?_⟩,
    ⟨hsound.placed.sent_eq, hsound.recorded.sorted, hsound.sent_subperm⟩,
    ⟨fun f' hmove => hmove.rank_lt, ?_, ?_⟩, ?_, ?_⟩
  · intro m hm value hphase hopen
    have hroom := hsound.length_queue_lt hm (by rw [hphase]; rfl)
    exact ⟨_, .deliver hphase hopen hroom⟩
  · intro hquiet hopen
    rcases hquiet.listening hsound hopen with ⟨-, -, ⟨m, hm, -, hlater⟩, hdeadline⟩
    exact ⟨⟨m.task, hsound.staffed.mem_tasks hm, hlater⟩, hdeadline⟩
  · intro taken hcaller hqueue hreleased
    exact .settle hcaller hqueue (.inl (hsound.staffed.handles_eq_zero hcaller hreleased))
  · intro instant taken hcaller
    exact (hsound.placed.of_returned hcaller).2.2.1
  · intro htimed hdeadline hprompt
    refine ⟨?_, exists_returned hprompt htimed hdeadline⟩
    intro instant taken hcaller
    rcases (hprompt.punctual htimed hdeadline).returned instant taken hcaller with ⟨hinstant, htaken⟩
    refine ⟨hinstant, htaken, ?_⟩
    intro huntied
    exact htaken.unique huntied (mayTake_collected wait htimed)

/-- One task is silent, one delivers, and one would die later. The caller gets what is delivered, and
returns at that instant. -/
theorem queue_serves_mixed_tasks :
    let call : Instant → Fate → CallTrace := fun ended fate =>
      ⟨.find .explorer "id", 0, ended, fate⟩
    let tasks : List (Task String) := [⟨[call 3 .answered], 3, some none⟩,
      ⟨[call 5 .answered], 5, some (some "Taal")⟩, ⟨[call 7 .crashed], 7, none⟩]
    ∃ f, Steps (.first 100 .abort) (.begin 0 tasks) f ∧ f.capacity = 3 ∧
      f.caller = .returned 5 [⟨5, "Taal"⟩] ∧
      Concludes (.first 100 .abort) tasks f.sent 5 [⟨5, "Taal"⟩] := by
  intro call tasks
  have htimed : WellTimed 0 tasks := by simp [WellTimed, tasks, call, Gapless]
  have hdeadline : ∀ d ∈ (Wait.first 100 .abort).deadline?, 0 < d := by simp [Wait.deadline?]
  have harrivals : arrivals 0 tasks = [⟨5, "Taal"⟩] := List.perm_singleton.mp (arrivals_perm htimed)
  have huntied : (Wait.first 100 .abort).Untied 0 (arrivals 0 tasks) := by
    rw [harrivals]
    exact ⟨by decide, by simp [Wait.deadline?]⟩
  have hwinner : winner? 0 100 tasks = some ⟨5, "Taal"⟩ := by
    rw [winner?, harrivals]
    rfl
  -- nobody is held up, so there is a state in which the caller has returned
  have hbegin : Steps (.first 100 .abort) (.begin 0 tasks) (.begin 0 tasks) := .refl
  rcases queue_serves_every_task hbegin with ⟨-, -, -, -, hprompt⟩
  rcases (hprompt htimed hdeadline .refl).2 with ⟨f, hsteps, instant, taken, hcaller⟩
  rcases queue_serves_every_task hsteps.steps with ⟨⟨hcapacity, -⟩, -, -, hreturned, hprompt⟩
  rcases (hprompt htimed hdeadline hsteps).1 instant taken hcaller with ⟨hinstant, -, hresult⟩
  have hinstant : instant = 5 := by
    rw [hinstant]
    show (first 0 100 .abort tasks).moment.instant = 5
    rw [first_moment, hwinner]
  have htaken : taken = [⟨5, "Taal"⟩] := by
    rw [hresult huntied]
    show (first 0 100 .abort tasks).result.toList = _
    rw [first_result, hwinner]
    rfl
  subst hinstant htaken
  exact ⟨f, hsteps.steps, hcapacity, hcaller, hreturned 5 _ hcaller⟩

end TxGateway.Scope
