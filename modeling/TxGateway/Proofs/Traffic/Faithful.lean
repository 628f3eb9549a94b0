import TxGateway.Proofs.Traffic.Alone

namespace TxGateway

/-! # A plan keeps to its run

Whatever order a plan's steps take where there is a choice, the plan ends when its run does, and has
made the calls of its run.

* `Thread.Follows` and `Faithful` are what is true at every point of the way.
* `Faithful.pass`, `Faithful.resume` and `Faithful.close` are the steps, and `faithful_of_alone` is
  about the whole way.
* `Alone.requests_perm` compares the calls that have been made with those of the run.
-/

/-- What was asked, and when. -/
def requests (calls : List CallTrace) : List (Call × Instant) :=
  calls.map fun c => (c.call, c.began)

/-! ## Threads -/

namespace Thread

/-- The thread has come as far as it may by now, and keeps to the course of its program. A thread
that was broken off has asked what its program asks. -/
def Follows (w : World) (start now : Instant) (t : Thread (Option Delivery)) : Prop :=
  match t.stage with
  | .waiting due _ =>
    start < due ∧ now ≤ due ∧ t.calls ≠ [] ∧ t.course w = t.program.activity w start
  | .ended instant _ => instant ≤ now ∧ t.course w = t.program.activity w start
  | .cut => requests t.calls = requests (t.program.activity w start).calls

variable {w : World} {start now now' due : Instant} {t : Thread (Option Delivery)}
  {rest : Option (Process (Option Delivery))}

/-- A thread that has just got so far keeps to its course. -/
theorem follows_of_since (hstart : start ≤ now) (hsince : t.stage.Since now)
    (hcalls : t.stage.isWaiting = true → t.calls ≠ [])
    (hcourse : t.course w = t.program.activity w start) : t.Follows w start now := by
  unfold Follows
  cases h : t.stage with
  | waiting due rest =>
    rw [h] at hsince
    exact ⟨hstart.trans_lt hsince, hsince.le, hcalls (by rw [h]; rfl), hcourse⟩
  | ended instant value =>
    rw [h] at hsince
    exact ⟨hsince.le, hcourse⟩
  | cut =>
    rw [h] at hsince
    exact hsince.elim

theorem follows_start (p : Process (Option Delivery)) :
    (Thread.start w p start).Follows w start start :=
  follows_of_since (Nat.le_refl start) (since_start p start) calls_start_ne_nil
    (course_start p start)

namespace Follows

variable (h : t.Follows w start now)

include h

theorem of_waiting (hstage : t.stage = .waiting due rest) :
    start < due ∧ now ≤ due ∧ t.calls ≠ [] ∧ t.course w = t.program.activity w start := by
  unfold Follows at h
  rwa [hstage] at h

theorem resume (hstart : start ≤ now) (hstage : t.stage = .waiting now rest) :
    (t.resume w).Follows w start now := by
  obtain ⟨-, -, -, hcourse⟩ := h.of_waiting hstage
  refine follows_of_since hstart (since_resume hstage) ?_ ?_
  · exact fun hwaits => List.ne_nil_of_length_pos (Nat.zero_lt_of_lt (length_lt_resume hstage hwaits))
  · rw [course_resume, program_resume]
    exact hcourse

/-- Time passes for a thread that waits long enough. -/
theorem pass (hle : now ≤ now')
    (hdue : ∀ due rest, t.stage = .waiting due rest → now' ≤ due) : t.Follows w start now' := by
  unfold Follows at h ⊢
  cases hstage : t.stage with
  | waiting due rest =>
    rw [hstage] at h
    exact ⟨h.1, hdue due rest hstage, h.2.2⟩
  | ended instant value =>
    rw [hstage] at h
    exact ⟨h.1.trans hle, h.2⟩
  | cut => rwa [hstage] at h

/-- What a thread still has to do takes until the end of its wait at least. -/
theorem due_le_finish (hstage : t.stage = .waiting due rest) :
    due ≤ (t.program.activity w start).finish := by
  obtain ⟨-, -, -, hcourse⟩ := h.of_waiting hstage
  rw [← hcourse, course, hstage]
  cases rest with
  | none => exact Nat.le_refl _
  | some p => exact (p.gapless w due).le

/-- A thread that does not wait has delivered what its program delivers. -/
theorem delivery?_eq (hwhole : t.stage ≠ .cut) (hidle : t.stage.isWaiting = false) :
    t.delivery? = Scope.delivery? (t.program.activity w start) := by
  unfold Follows at h
  unfold delivery?
  cases hstage : t.stage with
  | waiting due rest => simp [hstage, Stage.isWaiting] at hidle
  | cut => exact absurd hstage hwhole
  | ended instant value =>
    simp only [hstage] at h
    rw [← h.2, course, hstage]
    rfl

theorem of_delivery? {a : Arrival Delivery} (ha : t.delivery? = some a) :
    Scope.delivery? (t.program.activity w start) = some a ∧ a.instant ≤ now := by
  cases hstage : t.stage with
  | waiting due rest => simp [delivery?, hstage] at ha
  | cut => simp [delivery?, hstage] at ha
  | ended instant value =>
    refine ⟨?_, ?_⟩
    · rwa [← h.delivery?_eq (by simp [hstage]) (by rw [hstage]; rfl)]
    · simp only [delivery?, hstage, Option.map_eq_some_iff] at ha
      obtain ⟨v, -, rfl⟩ := ha
      unfold Follows at h
      rw [hstage] at h
      exact h.1

/-- What the program delivers has been delivered, or comes after a wait. -/
theorem delivered_or_waiting (hwhole : t.stage ≠ .cut) {a : Arrival Delivery}
    (ha : Scope.delivery? (t.program.activity w start) = some a) :
    t.delivery? = some a ∨ ∃ due rest, t.stage = .waiting due rest ∧ due ≤ a.instant := by
  cases hstage : t.stage with
  | waiting due rest =>
    refine .inr ⟨due, rest, rfl, ?_⟩
    rw [Scope.instant_of_delivery?_eq ha]
    exact h.due_le_finish hstage
  | cut => exact absurd hstage hwhole
  | ended instant value =>
    rw [h.delivery?_eq hwhole (by rw [hstage]; rfl)]
    exact .inl ha

/-- A thread that does not wait has done all that it had to do. -/
theorem finish_le (hwhole : t.stage ≠ .cut) (hwaits : t.stage.isWaiting = false) :
    (t.program.activity w start).finish ≤ now := by
  unfold Follows at h
  cases hstage : t.stage with
  | waiting due rest =>
    rw [hstage] at hwaits
    cases hwaits
  | cut => exact absurd hstage hwhole
  | ended instant value =>
    rw [hstage] at h
    rw [← h.2, course, hstage]
    exact h.1

/-- What a thread has asked before now is what its program asks before now. -/
theorem requests_before : (requests t.calls).filter (fun r => r.2 < now) =
    (requests (t.program.activity w start).calls).filter fun r => r.2 < now := by
  have hfollows := h
  unfold Follows at h
  cases hstage : t.stage with
  | waiting due rest =>
    obtain ⟨-, hdue, -, hcourse⟩ := hfollows.of_waiting hstage
    -- whatever is still to be asked is asked after the wait
    have hahead : ∀ c ∈ (t.stage.ahead w).calls, now ≤ c.began := by
      intro c hc
      rw [hstage] at hc
      cases rest with
      | none => cases hc
      | some p => exact hdue.trans ((p.gapless w due).le_began hc)
    rw [← hcourse, course, Timeline.after, requests, requests, List.map_append, List.filter_append]
    have hnone : ((t.stage.ahead w).calls.map fun c => (c.call, c.began)).filter
        (fun r => r.2 < now) = [] := by
      simpa [List.filter_eq_nil_iff] using hahead
    rw [hnone, List.append_nil]
  | ended instant value =>
    rw [hstage] at h
    rw [← h.2, course, hstage]
    simp [Timeline.after, Stage.ahead]
  | cut =>
    rw [hstage] at h
    have hsame : requests t.calls = requests (t.program.activity w start).calls := h
    rw [hsame]

/-- A thread that makes one call has made it as soon as it waits. -/
theorem calls_eq_of_waiting (hone : (t.program.activity w start).calls.length = 1)
    (hstage : t.stage = .waiting due rest) : t.calls = (t.program.activity w start).calls := by
  obtain ⟨-, -, hcalls, hcourse⟩ := h.of_waiting hstage
  have hprefix : t.calls <+: (t.program.activity w start).calls := by
    rw [← hcourse]
    exact List.prefix_append _ _
  exact hprefix.eq_of_length_le (hone.trans_le (List.length_pos_iff.mpr hcalls))

/-- A thread that makes one call has asked what its program asks, however far it has come. -/
theorem requests_eq (hone : (t.program.activity w start).calls.length = 1) :
    requests t.calls = requests (t.program.activity w start).calls := by
  have hfollows := h
  unfold Follows at h
  cases hstage : t.stage with
  | waiting due rest => rw [hfollows.calls_eq_of_waiting hone hstage]
  | ended instant value =>
    rw [hstage] at h
    rw [← h.2, course, hstage]
    simp [Timeline.after, Stage.ahead]
  | cut => rwa [hstage] at h

/-- A thread that makes one call has made it when it is broken off. -/
theorem cutAt (hone : (t.program.activity w start).calls.length = 1) :
    (t.cutAt now).Follows w start now := by
  unfold Thread.cutAt
  split
  · next due rest hstage =>
    show requests _ = requests _
    rw [← h.calls_eq_of_waiting hone hstage, requests, requests, List.map_map]
    refine List.map_congr_left fun c _ => ?_
    simp only [Function.comp_apply]
    split <;> rfl
  · exact h

theorem leave {wait : Wait} (hone : wait.deadline?.isSome = true →
      (t.program.activity w start).calls.length = 1) : (wait.leave now t).Follows w start now := by
  unfold Wait.leave
  split
  · exact h.cutAt (hone rfl)
  · exact h

end Follows

theorem program_cutAt (t : Thread (Option Delivery)) (now : Instant) :
    (t.cutAt now).program = t.program := by
  unfold cutAt
  split <;> rfl

/-- What a thread delivers is delivered at once. -/
theorem instant_of_since (hsince : t.stage.Since now) {a : Arrival Delivery}
    (ha : t.delivery? = some a) : a.instant = now := by
  unfold delivery? at ha
  split at ha
  · next instant value hstage =>
    obtain ⟨v, -, rfl⟩ := Option.map_eq_some_iff.mp ha
    rw [hstage] at hsince
    exact hsince
  · cases ha

end Thread

theorem Wait.program_leave (now : Instant) (wait : Wait) (t : Thread (Option Delivery)) :
    (wait.leave now t).program = t.program := by
  unfold leave
  split
  · exact t.program_cutAt now
  · rfl

/-! ## The caller -/

namespace Live

variable {wait : Wait} {now deadline : Instant} {policy : Stragglers} {l : Live}
  {taken : List (Arrival Delivery)}

theorem isBusy_iff : l.isBusy = true ↔ ∃ t ∈ l.threads, ∃ due rest, t.stage = .waiting due rest := by
  unfold isBusy
  rw [List.any_eq_true]
  constructor
  · rintro ⟨t, ht, hwaits⟩
    cases hstage : t.stage with
    | waiting due rest => exact ⟨t, ht, due, rest, hstage⟩
    | ended instant value => simp [hstage, Stage.isWaiting] at hwaits
    | cut => simp [hstage, Stage.isWaiting] at hwaits
  · rintro ⟨t, ht, due, rest, hstage⟩
    exact ⟨t, ht, by rw [hstage]; rfl⟩

theorem ended_of_ready (h : l.ready? wait now = some taken) : l.ended = none := by
  unfold ready? at h
  split at h
  · cases h
  · next hended => simpa using hended

/-- Who waits for all goes on when no thread is busy, with all that was delivered. -/
theorem ready?_all (hopen : l.ended = none) :
    l.ready? .all now = if l.isBusy then none else some l.queue := by
  simp [ready?, hopen]

theorem ready?_first_eq_none (hopen : l.ended = none)
    (h : l.ready? (.first deadline policy) now = none) :
    l.queue = [] ∧ l.isBusy = true ∧ now < deadline := by
  simp only [ready?, hopen, Option.isSome_none, Bool.false_eq_true, if_false] at h
  split at h
  · cases h
  · next hqueue =>
    split at h
    · next hidle => simpa [hqueue] using hidle
    · cases h

/-- Who waits for the first goes on with it, or with nothing when no thread is busy or the deadline
has come. -/
theorem ready?_first_eq_some (h : l.ready? (.first deadline policy) now = some taken) :
    (∃ a ∈ l.queue, taken = [a]) ∨
      l.queue = [] ∧ taken = [] ∧ (l.isBusy = false ∨ deadline ≤ now) := by
  have hopen := ended_of_ready h
  simp only [ready?, hopen, Option.isSome_none, Bool.false_eq_true, if_false] at h
  split at h
  · next a rest hqueue =>
    cases h
    exact .inl ⟨a, by simp [hqueue], rfl⟩
  · next hqueue =>
    split at h
    · cases h
    · next hidle =>
      cases h
      refine .inr ⟨hqueue, rfl, ?_⟩
      cases hbusy : l.isBusy with
      | false => exact .inl rfl
      | true => exact .inr (by simpa [hbusy] using hidle)

end Live

/-! ## Plans -/

variable {w : World} {plan : Plan} {start now now' : Instant} {l : Live}

namespace Plan

/-- When the run of the plan ends. -/
def moment (w : World) (start : Instant) (plan : Plan) : Instant :=
  (plan.run w start).moment.instant

theorem moment_of_all (h : plan.wait = .all) :
    plan.moment w start = Scope.finish start (plan.timelines w start) := by
  unfold moment run
  rw [h]
  rfl

theorem moment_of_first {deadline : Instant} {policy : Stragglers}
    (h : plan.wait = .first deadline policy) : plan.moment w start =
      (Scope.first start deadline policy (plan.timelines w start)).moment.instant := by
  unfold moment run
  rw [h]
  rfl

theorem start_le_moment : start ≤ plan.moment w start := by
  cases hwait : plan.wait with
  | all =>
    rw [moment_of_all hwait]
    exact Scope.le_finish _ _
  | first deadline policy =>
    rw [moment_of_first hwait]
    exact Scope.start_le_first (plan.wellTimed w start)

end Plan

/-- What is true of a plan at every point of its way. -/
structure Faithful (w : World) (plan : Plan) (start now : Instant) (l : Live) : Prop where
  started : start ≤ now
  programs : l.threads.map Thread.program = plan.tasks
  follows : ∀ t ∈ l.threads, t.Follows w start now
  whole : l.ended = none → ∀ t ∈ l.threads, t.stage ≠ .cut
  queue : l.ended = none → l.queue.Perm (l.threads.filterMap Thread.delivery?)
  order : l.ended = none → l.queue.Pairwise fun a b => a.instant ≤ b.instant
  intime : l.ended = none → now ≤ plan.moment w start
  result : ∀ c x, l.ended = some (c, x) → c = plan.moment w start ∧ plan.Admits w start x

namespace Faithful

theorem begin : Faithful w plan start start (.begin w start plan) where
  started := Nat.le_refl _
  programs := by
    simp only [Live.begin, List.map_map]
    exact List.map_id _
  follows := by
    intro t ht
    obtain ⟨p, -, rfl⟩ := List.mem_map.mp ht
    exact Thread.follows_start p
  whole := by
    intro _ t ht hcut
    obtain ⟨p, -, rfl⟩ := List.mem_map.mp ht
    have hsince := Thread.since_start (w := w) p start
    rw [hcut] at hsince
    exact hsince
  queue := fun _ => .refl _
  order := by
    -- whatever has been delivered by now has been so at the start
    have hstart : ∀ a ∈ (Live.begin w start plan).queue, a.instant = start := by
      intro a ha
      obtain ⟨t, ht, ha⟩ := List.mem_filterMap.mp ha
      obtain ⟨p, -, rfl⟩ := List.mem_map.mp ht
      exact Thread.instant_of_since (Thread.since_start p start) ha
    intro _
    refine List.pairwise_iff_forall_sublist.mpr fun {a b} hab => ?_
    rw [hstart a (hab.subset (by simp)), hstart b (hab.subset (by simp))]
  intime := fun _ => plan.start_le_moment
  result := fun _ _ h => nomatch h

variable (h : Faithful w plan start now l)

include h

/-! ### Threads and tasks -/

theorem timelines_eq :
    plan.timelines w start = l.threads.map fun t => t.program.activity w start := by
  rw [Plan.timelines, ← h.programs, List.map_map]
  rfl

theorem mem_arrivals_iff {a : Arrival Delivery} : a ∈ plan.arrivals w start ↔
    ∃ t ∈ l.threads, Scope.delivery? (t.program.activity w start) = some a := by
  rw [Plan.arrivals, (Scope.arrivals_perm (plan.wellTimed w start)).mem_iff, h.timelines_eq,
    List.filterMap_map, List.mem_filterMap]
  rfl

theorem mem_arrivals_of_mem_queue (hopen : l.ended = none) {a : Arrival Delivery}
    (ha : a ∈ l.queue) : a ∈ plan.arrivals w start ∧ a.instant ≤ now := by
  obtain ⟨t, ht, hta⟩ := List.mem_filterMap.mp ((h.queue hopen).mem_iff.mp ha)
  obtain ⟨hdelivery, hle⟩ := (h.follows t ht).of_delivery? hta
  exact ⟨h.mem_arrivals_iff.mpr ⟨t, ht, hdelivery⟩, hle⟩

/-- What arrives is in the queue, or comes after a wait. -/
theorem queued_or_waiting (hopen : l.ended = none) {a : Arrival Delivery}
    (ha : a ∈ plan.arrivals w start) : a ∈ l.queue ∨
      ∃ t ∈ l.threads, ∃ due rest, t.stage = .waiting due rest ∧ due ≤ a.instant := by
  obtain ⟨t, ht, hdelivery⟩ := h.mem_arrivals_iff.mp ha
  rcases (h.follows t ht).delivered_or_waiting (h.whole hopen t ht) hdelivery with
    hdelivered | ⟨due, rest, hstage, hle⟩
  · exact .inl ((h.queue hopen).mem_iff.mpr (List.mem_filterMap.mpr ⟨t, ht, hdelivered⟩))
  · exact .inr ⟨t, ht, due, rest, hstage, hle⟩

/-- When no thread is busy, all that arrives has been delivered. -/
theorem queue_perm_arrivals (hopen : l.ended = none) (hidle : l.isBusy = false) :
    l.queue.Perm (plan.arrivals w start) := by
  have hwaits := List.any_eq_false.mp hidle
  have hall : ∀ t ∈ l.threads, t.delivery? = Scope.delivery? (t.program.activity w start) :=
    fun t ht => (h.follows t ht).delivery?_eq (h.whole hopen t ht) (by simpa using hwaits t ht)
  have hperm := Scope.arrivals_perm (plan.wellTimed w start)
  rw [h.timelines_eq, List.filterMap_map, ← h.timelines_eq] at hperm
  refine (h.queue hopen).trans ?_
  rw [List.filterMap_congr hall]
  exact hperm.symm

/-- When no thread is busy, all tasks have come to their ends. -/
theorem finish_le_of_idle (hopen : l.ended = none) (hidle : l.isBusy = false) :
    Scope.finish start (plan.timelines w start) ≤ now := by
  refine Scope.finish_le h.started fun s hs => ?_
  rw [h.timelines_eq] at hs
  obtain ⟨t, ht, rfl⟩ := List.mem_map.mp hs
  refine (h.follows t ht).finish_le (h.whole hopen t ht) ?_
  simpa using List.any_eq_false.mp hidle t ht

/-! ### Steps -/

theorem pass (hle : now ≤ now') (hpass : l.MayPass plan.wait now now') :
    Faithful w plan start now' l where
  started := h.started.trans hle
  programs := h.programs
  follows := fun t ht => (h.follows t ht).pass hle (hpass.due t ht)
  whole := h.whole
  queue := h.queue
  order := h.order
  result := h.result
  intime := by
    intro hopen
    rcases hle.eq_or_lt with rfl | hlt
    · exact h.intime hopen
    -- time goes on only while the caller has to wait, and then some thread is busy
    have hidle := hpass.idle hlt
    have hlate : l.isBusy = true → ∃ s ∈ plan.timelines w start, now' ≤ s.finish := by
      intro hbusy
      obtain ⟨t, ht, due, rest, hstage⟩ := Live.isBusy_iff.mp hbusy
      refine ⟨t.program.activity w start, ?_, ?_⟩
      · rw [h.timelines_eq]
        exact List.mem_map_of_mem ht
      · exact (hpass.due t ht due rest hstage).trans ((h.follows t ht).due_le_finish hstage)
    cases hwait : plan.wait with
    | all =>
      rw [hwait, Live.ready?_all hopen] at hidle
      obtain ⟨s, hs, hnow⟩ := hlate (by simpa using hidle)
      rw [Plan.moment_of_all hwait]
      exact hnow.trans (Scope.le_finish_of_mem hs)
    | first deadline policy =>
      rw [hwait] at hidle
      obtain ⟨hqueue, hbusy, -⟩ := Live.ready?_first_eq_none hopen hidle
      rw [Plan.moment_of_first hwait]
      refine Scope.le_first (plan.wellTimed w start) ?_ (hlate hbusy) ?_
      · intro a ha
        rcases h.queued_or_waiting hopen ha with hqueued | ⟨t, ht, due, rest, hstage, hdue⟩
        · rw [hqueue] at hqueued
          cases hqueued
        · exact (hpass.due t ht due rest hstage).trans hdue
      · exact (hpass.deadline hlt hopen deadline (by rw [hwait]; rfl)).trans (Nat.le_max_right _ _)

/-- A thread goes on and leaves everything else as it is. -/
theorem resume {before after : List (Thread (Option Delivery))} {t : Thread (Option Delivery)}
    {rest : Option (Process (Option Delivery))} (hthreads : l.threads = before ++ t :: after)
    (hdue : t.stage = .waiting now rest) :
    Faithful w plan start now
      { l with threads := before ++ t.resume w :: after, queue := l.receive (t.resume w) } := by
  have hsince := Thread.since_resume (w := w) hdue
  have hmem : ∀ s, s ∈ before ++ t.resume w :: after → s ∈ l.threads ∨ s = t.resume w := by
    intro s hs
    rw [hthreads]
    simp only [List.mem_append, List.mem_cons] at hs ⊢
    tauto
  have ht : t ∈ l.threads := by simp [hthreads]
  have hsilent : t.delivery? = none := by simp [Thread.delivery?, hdue]
  constructor
  case started =>
    exact h.started
  case programs =>
    have hprograms := h.programs
    rw [hthreads] at hprograms
    simpa [Thread.program_resume] using hprograms
  case follows =>
    intro s hs
    rcases hmem s hs with hs | rfl
    · exact h.follows s hs
    · exact (h.follows t ht).resume h.started hdue
  case whole =>
    intro hopen s hs hcut
    rcases hmem s hs with hs | rfl
    · exact h.whole hopen s hs hcut
    · rw [hcut] at hsince
      exact hsince
  case queue =>
    intro hopen
    have hqueue := h.queue hopen
    rw [hthreads, List.filterMap_append, List.filterMap_cons_none hsilent] at hqueue
    have hopen' : l.ended = none := hopen
    simp only [Live.receive, hopen', Option.isSome_none, Bool.false_eq_true, if_false,
      List.filterMap_append]
    cases hdelivery : (t.resume w).delivery? with
    | none => simpa [hdelivery] using hqueue
    | some a =>
      rw [List.filterMap_cons_some hdelivery]
      refine (List.perm_append_singleton a l.queue).trans ?_
      exact (hqueue.cons a).trans List.perm_middle.symm
  case order =>
    intro hopen
    have hopen' : l.ended = none := hopen
    simp only [Live.receive, hopen', Option.isSome_none, Bool.false_eq_true, if_false]
    refine List.pairwise_append.mpr ⟨h.order hopen', ?_, ?_⟩
    · cases (t.resume w).delivery? <;> simp
    · intro a ha b hb
      rw [Thread.instant_of_since hsince (Option.mem_toList.mp hb)]
      exact (h.mem_arrivals_of_mem_queue hopen' ha).2
  case intime =>
    exact h.intime
  case result =>
    exact h.result

/-- The caller goes on exactly when the run of the plan ends. -/
theorem moment_of_ready {taken : List (Arrival Delivery)}
    (hready : l.ready? plan.wait now = some taken) : now = plan.moment w start := by
  have hopen := Live.ended_of_ready hready
  -- the run does not end before, so it is left to show that it is over with what the caller sees
  refine Nat.le_antisymm (h.intime hopen) ?_
  cases hwait : plan.wait with
  | all =>
    rw [hwait, Live.ready?_all hopen] at hready
    rw [Plan.moment_of_all hwait]
    split at hready
    · cases hready
    · next hidle => exact h.finish_le_of_idle hopen (Bool.eq_false_of_not_eq_true hidle)
  | first deadline policy =>
    rw [hwait] at hready
    rw [Plan.moment_of_first hwait]
    refine Scope.first_le (plan.wellTimed w start) ?_
    rcases Live.ready?_first_eq_some hready with ⟨a, ha, -⟩ | ⟨hqueue, -, hidle | hdeadline⟩
    · exact .inl ⟨a, h.mem_arrivals_of_mem_queue hopen ha⟩
    · -- nothing is queued and nobody waits, so nothing arrives at all
      have hnone := h.queue_perm_arrivals hopen hidle
      rw [hqueue] at hnone
      exact .inr (.inl ⟨hnone.nil_eq.symm, h.finish_le_of_idle hopen hidle⟩)
    · exact .inr (.inr (Nat.max_le.mpr ⟨h.started, hdeadline⟩))

/-- What the caller takes is what its plan lets it take. -/
theorem mayTake_of_ready {taken : List (Arrival Delivery)}
    (hready : l.ready? plan.wait now = some taken) :
    plan.wait.MayTake start (plan.arrivals w start) taken := by
  have hopen := Live.ended_of_ready hready
  have hnow := h.moment_of_ready hready
  cases hwait : plan.wait with
  | all =>
    rw [hwait, Live.ready?_all hopen] at hready
    split at hready
    · cases hready
    · next hidle =>
      cases hready
      exact ⟨h.queue_perm_arrivals hopen (Bool.eq_false_of_not_eq_true hidle), h.order hopen⟩
  | first deadline policy =>
    rw [hwait] at hready
    rw [Plan.moment_of_first hwait] at hnow
    have htimed := plan.wellTimed w start
    rcases Live.ready?_first_eq_some hready with ⟨a, ha, htaken⟩ | ⟨hqueue, htaken, hlate⟩
    · obtain ⟨hmem, hle⟩ := h.mem_arrivals_of_mem_queue hopen ha
      -- the run ends now, and it does not outlast any arrival, nor the deadline
      refine .inl ⟨a, hmem, fun b hb => ?_, ?_, htaken⟩
      · rw [hnow] at hle
        exact hle.trans (Scope.first_le htimed (.inl ⟨b, hb, Nat.le_refl _⟩))
      · have hdeadline : now ≤ max start deadline := by
          rw [hnow]
          exact Scope.first_le htimed (.inr (.inr (Nat.le_refl _)))
        have hstart := Scope.start_le_of_mem_arrivals htimed hmem
        lia
    · -- whatever still arrives does so after a wait, and the caller has not waited for it
      refine .inr ⟨fun a ha => ?_, htaken⟩
      rcases h.queued_or_waiting hopen ha with hqueued | ⟨t, ht, due, rest, hstage, hdue⟩
      · rw [hqueue] at hqueued
        cases hqueued
      · obtain ⟨hstart, hle, -⟩ := (h.follows t ht).of_waiting hstage
        rw [Live.isBusy_iff.mpr ⟨t, ht, due, rest, hstage⟩] at hlate
        have hdeadline := hlate.resolve_left nofun
        lia

/-- The caller goes on, and leaves the threads to themselves or breaks them off. -/
theorem close (hbrief : plan.Brief w start) {taken : List (Arrival Delivery)}
    (hready : l.ready? plan.wait now = some taken) :
    Faithful w plan start now (l.close plan now taken) where
  started := h.started
  programs := by
    rw [← h.programs]
    show (l.threads.map _).map _ = _
    rw [List.map_map]
    exact List.map_congr_left fun t _ => plan.wait.program_leave now t
  follows := by
    intro s hs
    obtain ⟨t, ht, rfl⟩ := List.mem_map.mp hs
    refine (h.follows t ht).leave fun hfirst => hbrief hfirst _ ?_
    rw [h.timelines_eq]
    exact List.mem_map_of_mem ht
  whole := fun hopen => nomatch hopen
  queue := fun hopen => nomatch hopen
  order := fun hopen => nomatch hopen
  intime := fun hopen => nomatch hopen
  result := by
    rintro c x hended
    cases hended
    exact ⟨h.moment_of_ready hready, taken, h.mayTake_of_ready hready, rfl⟩

end Faithful

theorem faithful_of_alone (hbrief : plan.Brief w start) (h : Alone w plan start now l) :
    Faithful w plan start now l := by
  induction h with
  | begin => exact .begin
  | pass _ hle hpass ih => exact ih.pass hle hpass
  | act _ hact ih =>
    cases hact with
    | resume hthreads hdue => exact ih.resume hthreads hdue
    | close hready => exact ih.close hbrief hready

/-! ## Calls -/

/-- Calls that have begun when the caller goes on are shown, whatever becomes of them. -/
theorem Scope.requests_first {α : Type} {deadline : Instant} {policy : Stragglers}
    {tasks : List (Task α)}
    (hbegan : ∀ c ∈ calls tasks, c.began ≤ (first start deadline policy tasks).moment.instant) :
    (requests (first start deadline policy tasks).allCalls).Perm (requests (calls tasks)) := by
  cases policy with
  | detach => exact (List.filter_append_perm _ (calls tasks)).map _
  | abort =>
    let moment := (first start deadline .abort tasks).moment
    let stillOpen := (calls tasks).filter fun c => !moment.isPast c
    have hcalls : (first start deadline .abort tasks).allCalls =
        (calls tasks).filter moment.isPast ++
          (stillOpen.filter fun c => c.began ≤ moment.instant).map (brokenOff moment.instant) :=
      List.append_nil _
    have hcut : stillOpen.filter (fun c => c.began ≤ moment.instant) = stillOpen := by
      refine List.filter_eq_self.mpr fun c hc => ?_
      simpa using hbegan c (List.mem_filter.mp hc).1
    have hbrokenOff : requests (stillOpen.map (brokenOff moment.instant)) = requests stillOpen := by
      rw [requests, List.map_map]
      rfl
    have hsplit : requests ((calls tasks).filter moment.isPast ++ stillOpen) =
        requests ((calls tasks).filter moment.isPast) ++ requests stillOpen := List.map_append
    rw [hcalls, hcut, requests, List.map_append, ← requests, ← requests, hbrokenOff, ← hsplit]
    exact (List.filter_append_perm _ (calls tasks)).map _

/-- The run of a plan asks what its tasks ask, whatever becomes of those that are left behind. -/
theorem Plan.requests_run (hbrief : plan.Brief w start) :
    (requests (plan.run w start).allCalls).Perm
      (requests (Scope.calls (plan.timelines w start))) := by
  cases hwait : plan.wait with
  | all =>
    unfold run
    simp [hwait, Run.map, Run.allCalls, Scope.drain]
  | first deadline policy =>
    have hrun : (plan.run w start).allCalls =
        (Scope.first start deadline policy (plan.timelines w start)).allCalls := by
      unfold run
      rw [hwait]
      rfl
    rw [hrun]
    refine Scope.requests_first fun c hc => ?_
    obtain ⟨t, ht, hc⟩ := List.mem_flatMap.mp hc
    -- the only call of a task begins with the task
    have hone := hbrief (by rw [hwait]; rfl) t ht
    have hgapless := plan.wellTimed w start t ht
    obtain ⟨d, hd⟩ := List.length_eq_one_iff.mp hone
    rw [hd] at hc hgapless
    rw [List.mem_singleton.mp hc, hgapless.1]
    exact Scope.start_le_first (plan.wellTimed w start)

/-- A plan whose tasks make one call each has made all of them as soon as it has begun. -/
theorem Alone.requests_eq (hone : ∀ t ∈ plan.timelines w start, t.calls.length = 1)
    (h : Alone w plan start now l) : requests (l.threads.flatMap Thread.calls) =
      requests (Scope.calls (plan.timelines w start)) := by
  have hfaithful := faithful_of_alone (fun _ => hone) h
  rw [hfaithful.timelines_eq] at hone
  simp only [requests, Scope.calls, hfaithful.timelines_eq, List.map_flatMap, List.flatMap_map]
  exact List.flatMap_congr fun t ht =>
    (hfaithful.follows t ht).requests_eq (hone _ (List.mem_map_of_mem ht))

/-- Before any instant the plan has asked what its run asks before it. -/
theorem Alone.requests_perm (hbrief : plan.Brief w start) (h : Alone w plan start now l) :
    ((requests (l.threads.flatMap Thread.calls)).filter fun r => r.2 < now).Perm
      ((requests (plan.run w start).allCalls).filter fun r => r.2 < now) := by
  have hfaithful := faithful_of_alone hbrief h
  refine .trans (.of_eq ?_) ((Plan.requests_run hbrief).filter _).symm
  simp only [requests, Scope.calls, hfaithful.timelines_eq, List.map_flatMap, List.filter_flatMap,
    List.flatMap_map]
  exact List.flatMap_congr fun t ht => (hfaithful.follows t ht).requests_before

end TxGateway
