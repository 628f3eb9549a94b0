import Mathlib.Data.List.Perm.Subperm
import TxGateway.Proofs.Scope.Flow

namespace TxGateway.Scope

/-! # The queue of a scope

Whatever the tasks of a scope and its caller do, and in whatever order, nobody finds the queue full,
and nothing that is delivered gets lost or comes twice.

* `Staffed`, `Recorded` and `Placed` are the invariant: about the tasks and their handles, about what
  has been delivered, and about what the caller has taken. Together they are `Sound`.
* `Concludes` is what the caller has when it stops listening.
* `Steps.sound` says that the invariant holds whatever happens.
* `Sound.length_queue_le` and `Sound.length_queue_lt` say that the queue has room for everybody.
-/

variable {α : Type}

/-! ## The invariant -/

/-- What holds of a task that has been started. -/
structure Member.Sound (wait : Wait) (f : Flow α) (m : Member α) : Prop where
  delivering : ∀ value, m.phase = .delivering value →
    m.task.value.join = some value ∧ m.task.finish ≤ f.now
  unsent : m.phase.isBusy = true → m.sent? = none
  sent : ∀ a, m.sent? = some a → m.task.value.join = some a.value ∧ m.task.finish ≤ a.instant
  kept : f.Keeps wait → m.phase.isBusy = false →
    m.task.finish ≤ f.now ∧ m.sent?.map Arrival.value = m.task.value.join

/-- Every task has been started once or is still to be started, and who may still deliver something
has a handle. -/
structure Staffed (tasks : List (Task α)) (f : Flow α) : Prop where
  tasks_eq : f.members.map Member.task ++ f.caller.rest = tasks
  capacity_eq : f.capacity = max tasks.length 1
  handles_eq : f.handles = f.members.countP (fun m => m.phase.holds) + f.caller.handles

/-- What has been delivered comes from tasks, once from each, and in order of time. -/
structure Recorded (wait : Wait) (f : Flow α) : Prop where
  members : ∀ m ∈ f.members, m.Sound wait f
  perm : f.sent.Perm (f.members.filterMap Member.sent?)
  sorted : f.sent.Pairwise fun a b => a.instant ≤ b.instant
  past : ∀ a ∈ f.sent, a.instant ≤ f.now

/-- What the caller has taken when it has stopped listening at an instant. -/
def Concludes (wait : Wait) (tasks : List (Task α)) (sent : List (Arrival α)) (instant : Instant)
    (taken : List (Arrival α)) : Prop :=
  match wait with
  | .all =>
    -- all that was delivered, in that order; and every task that had a value has delivered it
    taken = sent ∧ (taken.map Arrival.value).Perm (tasks.filterMap fun t => t.value.join) ∧
      ∀ t ∈ tasks, t.finish ≤ instant
  | .first deadline _ =>
    -- the earliest, or nothing if none came before the deadline or can come at all
    (∃ a rest, sent = a :: rest ∧ taken = [a]) ∨
    taken = [] ∧ deadline ≤ instant ∧ (∀ a ∈ sent, deadline ≤ a.instant) ∨
    taken = [] ∧ sent = [] ∧ ∀ t ∈ tasks, t.value.join = none ∧ t.finish ≤ instant

/-- What has been delivered is in the queue or has been taken, as long as there is a queue. -/
def Placed (wait : Wait) (tasks : List (Task α)) (f : Flow α) : Prop :=
  match f.caller with
  | .starting _ => f.queue = f.sent
  | .listening taken => taken ++ f.queue = f.sent ∧ (wait = .all ∨ taken = [])
  | .settled taken =>
    taken ++ f.queue = f.sent ∧ Concludes wait tasks f.sent f.now taken ∧
      (wait = .all → f.handles = 0)
  | .returned instant taken =>
    f.queue = [] ∧ instant ≤ f.now ∧ Concludes wait tasks f.sent instant taken ∧
      (wait = .all → ∀ m ∈ f.members, m.phase = .ended)

structure Sound (wait : Wait) (tasks : List (Task α)) (f : Flow α) : Prop where
  staffed : Staffed tasks f
  recorded : Recorded wait f
  placed : Placed wait tasks f

variable {wait : Wait} {tasks : List (Task α)} {f f' : Flow α} {m m' : Member α} {e : Effect α}
  {sent taken : List (Arrival α)} {instant instant' : Instant} {a : Arrival α}

theorem Placed.of_listening (h : Placed wait tasks f) (hcaller : f.caller = .listening taken) :
    taken ++ f.queue = f.sent ∧ (wait = .all ∨ taken = []) := by
  rwa [Placed, hcaller] at h

/-- Who waits for the first has taken nothing as long as it listens. -/
theorem Placed.taken_eq_nil (h : Placed wait tasks f) (hcaller : f.caller = .listening taken)
    (hwait : wait ≠ .all) : taken = [] := by
  rcases (h.of_listening hcaller).2 with hall | hnone
  · exact absurd hall hwait
  · exact hnone

theorem Placed.of_settled (h : Placed wait tasks f) (hcaller : f.caller = .settled taken) :
    taken ++ f.queue = f.sent ∧ Concludes wait tasks f.sent f.now taken ∧
      (wait = .all → f.handles = 0) := by
  rwa [Placed, hcaller] at h

theorem Placed.of_returned (h : Placed wait tasks f) (hcaller : f.caller = .returned instant taken) :
    f.queue = [] ∧ instant ≤ f.now ∧ Concludes wait tasks f.sent instant taken ∧
      (wait = .all → ∀ m ∈ f.members, m.phase = .ended) := by
  rwa [Placed, hcaller] at h

theorem Placed.sent_eq (h : Placed wait tasks f) (hopen : f.caller.isOpen = true) :
    f.caller.taken ++ f.queue = f.sent := by
  cases hcaller : f.caller with
  | starting rest =>
    rw [Placed, hcaller] at h
    exact h
  | listening taken => exact (h.of_listening hcaller).1
  | settled taken => exact (h.of_settled hcaller).1
  | returned instant taken =>
    rw [hcaller] at hopen
    cases hopen

theorem Placed.of_closed (h : Placed wait tasks f) (hclosed : f.caller.isOpen = false) :
    f.queue = [] ∧ (wait = .all → ∀ m ∈ f.members, m.phase = .ended) := by
  cases hcaller : f.caller with
  | returned instant taken =>
    rcases h.of_returned hcaller with ⟨hqueue, -, -, hended⟩
    exact ⟨hqueue, hended⟩
  | starting rest | listening taken | settled taken =>
    rw [hcaller] at hclosed
    cases hclosed

/-! ## What a task's step preserves -/

theorem Member.Sound.mono (h : m.Sound wait f) (hkeeps : f'.Keeps wait → f.Keeps wait)
    (hnow : f.now ≤ f'.now) : m.Sound wait f' where
  delivering := by
    intro value hvalue
    rcases h.delivering value hvalue with ⟨hjoin, hdue⟩
    exact ⟨hjoin, hdue.trans hnow⟩
  unsent := h.unsent
  sent := h.sent
  kept := by
    intro hkept hbusy
    rcases h.kept (hkeeps hkept) hbusy with ⟨hdue, hsent⟩
    exact ⟨hdue.trans hnow, hsent⟩

/-- What is asked of a task that has nothing more to deliver. -/
theorem Member.Sound.of_idle (hidle : m.phase.isBusy = false)
    (hsent : ∀ a, m.sent? = some a → m.task.value.join = some a.value ∧ m.task.finish ≤ a.instant)
    (hkept : f.Keeps wait →
      m.task.finish ≤ f.now ∧ m.sent?.map Arrival.value = m.task.value.join) :
    m.Sound wait f where
  delivering := by
    intro value hphase
    rw [hphase] at hidle
    cases hidle
  unsent := by
    intro hbusy
    rw [hidle] at hbusy
    cases hbusy
  sent := hsent
  kept := fun hkeeps _ => hkept hkeeps

namespace Turn

theorem sound (h : Turn wait f m m' e) (hm : m.Sound wait f)
    (hopen : f.Keeps wait → m.phase ≠ .ended → f.caller.isOpen = true) : m'.Sound wait f := by
  have hended := h.not_ended
  cases h with
  | work hphase hdue =>
    have hunsent : m.sent? = none := hm.unsent (by simp [hphase, Phase.isBusy])
    cases hvalue : m.task.value.join with
    | none =>
      refine .of_idle rfl hm.sent fun _ => ⟨hdue, ?_⟩
      show m.sent?.map _ = _
      rw [hunsent, hvalue]
      rfl
    | some value =>
      refine ⟨?_, fun _ => hunsent, hm.sent, ?_⟩
      · intro other h
        cases h
        exact ⟨hvalue, hdue⟩
      · intro _ hbusy
        cases hbusy
  | @deliver value hphase _ hroom =>
    rcases hm.delivering value hphase with ⟨hvalue, hdue⟩
    refine .of_idle rfl ?_ fun _ => ⟨hdue, hvalue.symm⟩
    intro a ha
    cases ha
    exact ⟨hvalue, hdue⟩
  | drop hbusy hclosed hwait =>
    refine .of_idle rfl hm.sent fun hkeeps => ?_
    rw [hopen hkeeps hended] at hclosed
    cases hclosed
  | release hphase | leave hphase =>
    exact .of_idle rfl hm.sent fun hkeeps => hm.kept hkeeps (by simp [hphase, Phase.isBusy])

end Turn

/-! ## What every step preserves -/

theorem Staffed.move (h : Staffed tasks f) (hmove : Move wait f f') : Staffed tasks f' := by
  have htasks := h.tasks_eq
  have hhandles := h.handles_eq
  cases hmove with
  | start hcaller =>
    rw [hcaller] at htasks hhandles
    refine ⟨?_, h.capacity_eq, ?_⟩
    · rw [← htasks]
      simp [Caller.rest]
    · show f.handles + 1 = _
      rw [hhandles, List.countP_append]
      rfl
  | listen hcaller =>
    rw [hcaller] at htasks hhandles
    refine ⟨htasks, h.capacity_eq, ?_⟩
    show f.handles - 1 = _
    rw [hhandles]
    rfl
  | take hcaller hqueue =>
    rw [hcaller] at htasks hhandles
    refine ⟨?_, h.capacity_eq, ?_⟩
    · show _ ++ Caller.rest (.took _ _) = tasks
      rw [Caller.rest_took]
      exact htasks
    · show _ = _ + Caller.handles (.took _ _)
      rw [Caller.handles_took]
      exact hhandles
  | settle hcaller hqueue hover =>
    rw [hcaller] at htasks hhandles
    exact ⟨htasks, h.capacity_eq, hhandles⟩
  | close hcaller hjoined =>
    rw [hcaller] at htasks hhandles
    exact ⟨htasks, h.capacity_eq, hhandles⟩
  | @turn before after m m' e hmembers hturn =>
    rw [hmembers] at htasks hhandles
    refine ⟨?_, h.capacity_eq, ?_⟩
    · rw [← htasks]
      simp [Flow.turned, hturn.task_eq]
    · -- the counter loses what the task lets go of
      show f.handles - e.released = _
      have hholds := hturn.holds_eq
      simp only [Flow.turned, List.countP_append, List.countP_cons] at hhandles ⊢
      omega

/-- Deliveries of a scope in which one task has made a step. -/
theorem perm_of_turn {sent : List (Arrival α)} {before after : List (Member α)}
    (h : sent.Perm ((before ++ m :: after).filterMap Member.sent?)) (hm : m.Sound wait f)
    (hturn : Turn wait f m m' e) :
    (sent ++ e.put?.toList).Perm ((before ++ m' :: after).filterMap Member.sent?) := by
  rw [List.filterMap_append] at h ⊢
  cases hput : e.put? with
  | none =>
    rw [List.filterMap_cons, hturn.sent?_eq hput, ← List.filterMap_cons]
    simpa using h
  | some a =>
    rcases hturn.of_put hput with ⟨hphase, -, -, hsent⟩
    -- it has delivered nothing before, so its delivery is new in both lists
    have hunsent : m.sent? = none := hm.unsent (by rw [hphase]; rfl)
    rw [List.filterMap_cons_none hunsent] at h
    rw [List.filterMap_cons_some hsent]
    refine (h.append_right [a]).trans ?_
    rw [List.append_assoc]
    exact (List.perm_append_singleton a _).append_left _

theorem Recorded.turn {before after : List (Member α)} (h : Recorded wait f)
    (hplaced : Placed wait tasks f) (hmembers : f.members = before ++ m :: after)
    (hturn : Turn wait f m m' e) : Recorded wait (f.turned before m' after e) := by
  have hmove : Move wait f (f.turned before m' after e) := .turn hmembers hturn
  have hmem : m ∈ f.members := by simp [hmembers]
  have hopen : f.Keeps wait → m.phase ≠ .ended → f.caller.isOpen = true := by
    intro hkeeps hended
    rcases hkeeps with hopen | hall
    · exact hopen
    · -- when all is over, this task would have ended as well
      by_contra hclosed
      exact hended ((hplaced.of_closed (by simpa using hclosed)).2 hall m hmem)
  have hm : m'.Sound wait f := hturn.sound (h.members m hmem) hopen
  have hothers := h.members
  have hperm := h.perm
  rw [hmembers] at hothers hperm
  rw [List.forall_mem_append, List.forall_mem_cons] at hothers
  refine ⟨?_, perm_of_turn hperm hothers.2.1 hturn, ?_, ?_⟩
  · have hall : ∀ u ∈ before ++ m' :: after, u.Sound wait f := by
      rw [List.forall_mem_append, List.forall_mem_cons]
      exact ⟨hothers.1, hm, hothers.2.2⟩
    exact fun u hu => (hall u hu).mono hmove.keeps (Nat.le_of_eq hmove.now_eq.symm)
  · refine List.pairwise_append.mpr ⟨h.sorted, ?_, ?_⟩
    · cases e.put? <;> simp
    · intro a ha b hb
      rw [(hturn.of_put (Option.mem_toList.mp hb)).2.1]
      exact h.past a ha
  · refine List.forall_mem_append.mpr ⟨h.past, ?_⟩
    intro a ha
    exact Nat.le_of_eq (hturn.of_put (Option.mem_toList.mp ha)).2.1

theorem Recorded.move (h : Recorded wait f) (hplaced : Placed wait tasks f)
    (hmove : Move wait f f') : Recorded wait f' := by
  -- the caller changes nothing about tasks that have been started
  have hmembers : ∀ m ∈ f.members, m.Sound wait f' := fun m hm =>
    (h.members m hm).mono hmove.keeps (Nat.le_of_eq hmove.now_eq.symm)
  cases hmove with
  | @start t rest hcaller =>
    refine ⟨?_, ?_, h.sorted, h.past⟩
    · refine List.forall_mem_append.mpr ⟨hmembers, ?_⟩
      intro m hm
      rw [List.mem_singleton.mp hm]
      exact ⟨by simp, fun _ => rfl, by simp, by simp [Phase.isBusy]⟩
    · rw [List.filterMap_append]
      simpa using h.perm
  | listen | take | settle | close => exact ⟨hmembers, h.perm, h.sorted, h.past⟩
  | turn hsplit hturn => exact h.turn hplaced hsplit hturn

/-! ## What the caller has when it stops listening -/

/-- When nobody has a handle, nobody delivers any more. -/
theorem Staffed.idle (h : Staffed tasks f) (hhandles : f.handles = 0) :
    ∀ m ∈ f.members, m.phase.isBusy = false := by
  intro m hm
  have hcount := h.handles_eq
  have hnone : f.members.countP (fun m => m.phase.holds) = 0 := by omega
  by_contra hbusy
  exact List.countP_eq_zero.mp hnone m hm (Phase.holds_of_isBusy (by simpa using hbusy))

/-- When all tasks have let go of their handles, none is left while the caller listens. -/
theorem Staffed.handles_eq_zero (h : Staffed tasks f) (hcaller : f.caller = .listening taken)
    (hreleased : ∀ m ∈ f.members, m.phase.holds = false) : f.handles = 0 := by
  rw [h.handles_eq, hcaller, List.countP_eq_zero.mpr (by simpa using hreleased)]
  rfl

theorem Staffed.mem_tasks (h : Staffed tasks f) (hm : m ∈ f.members) : m.task ∈ tasks := by
  rw [← h.tasks_eq]
  exact List.mem_append_left _ (List.mem_map_of_mem hm)

/-- When nobody delivers any more, all that is to be delivered has been. -/
theorem Recorded.complete (h : Recorded wait f) (hstaffed : Staffed tasks f)
    (hkeeps : f.Keeps wait) (hrest : f.caller.rest = [])
    (hidle : ∀ m ∈ f.members, m.phase.isBusy = false) :
    (f.sent.map Arrival.value).Perm (tasks.filterMap fun t => t.value.join) ∧
      ∀ t ∈ tasks, t.finish ≤ f.now := by
  have hkept := fun m hm => (h.members m hm).kept hkeeps (hidle m hm)
  have htasks := hstaffed.tasks_eq
  rw [hrest, List.append_nil] at htasks
  rw [← htasks]
  constructor
  · refine (h.perm.map Arrival.value).trans ?_
    rw [List.map_filterMap, List.filterMap_map]
    rw [List.filterMap_congr fun m hm => (hkept m hm).2]
    exact .refl _
  · intro t ht
    obtain ⟨m, hm, rfl⟩ := List.mem_map.mp ht
    exact (hkept m hm).1

theorem Concludes.mono (h : Concludes wait tasks sent instant taken) (hle : instant ≤ instant') :
    Concludes wait tasks sent instant' taken := by
  cases wait with
  | all =>
    rcases h with ⟨htaken, hperm, hfinish⟩
    exact ⟨htaken, hperm, fun t ht => (hfinish t ht).trans hle⟩
  | first deadline policy =>
    rcases h with hearliest | ⟨htaken, hover, hlate⟩ | ⟨htaken, hnone, hsilent⟩
    · exact .inl hearliest
    · exact .inr (.inl ⟨htaken, hover.trans hle, hlate⟩)
    · exact .inr (.inr ⟨htaken, hnone, fun t ht => ⟨(hsilent t ht).1, (hsilent t ht).2.trans hle⟩⟩)

/-- What is delivered when the caller has stopped waiting for the first comes too late. -/
theorem Concludes.put (h : Concludes wait tasks sent instant taken) (hwait : wait ≠ .all)
    (hle : instant ≤ a.instant) (hm : m.task ∈ tasks) (hvalue : m.task.value.join = some a.value) :
    Concludes wait tasks (sent ++ [a]) instant taken := by
  cases wait with
  | all => exact absurd rfl hwait
  | first deadline policy =>
    rcases h with ⟨b, rest, rfl, htaken⟩ | ⟨htaken, hover, hlate⟩ | ⟨-, -, hsilent⟩
    · exact .inl ⟨b, rest ++ [a], rfl, htaken⟩
    · refine .inr (.inl ⟨htaken, hover, ?_⟩)
      refine List.forall_mem_append.mpr ⟨hlate, ?_⟩
      intro b hb
      rw [List.mem_singleton.mp hb]
      exact hover.trans hle
    · rw [(hsilent m.task hm).1] at hvalue
      cases hvalue

/-- The caller stops listening when there is nothing in the queue and nobody is left, or it is too
late. -/
theorem Sound.concludes_of_settle (h : Sound wait tasks f) (hcaller : f.caller = .listening taken)
    (hqueue : f.queue = []) (hover : f.handles = 0 ∨ ∃ d ∈ wait.deadline?, d ≤ f.now) :
    Concludes wait tasks f.sent f.now taken := by
  have hsent := (h.placed.of_listening hcaller).1
  rw [hqueue, List.append_nil] at hsent
  have hcomplete := fun hhandles => h.recorded.complete h.staffed (.inl (by rw [hcaller]; rfl))
    (by rw [hcaller]; rfl) (h.staffed.idle hhandles)
  cases wait with
  | all =>
    -- without a deadline there is only one way to stop
    rcases hover with hhandles | ⟨d, hd, -⟩
    · rcases hcomplete hhandles with ⟨hperm, hfinish⟩
      rw [hsent]
      exact ⟨rfl, hperm, hfinish⟩
    · cases hd
  | first deadline policy =>
    have hnone : taken = [] := h.placed.taken_eq_nil hcaller (by simp)
    have hnobody : f.sent = [] := by rw [← hsent, hnone]
    rcases hover with hhandles | ⟨d, hd, hover⟩
    · -- all that was to be delivered has been, and that was nothing
      rcases hcomplete hhandles with ⟨hperm, hfinish⟩
      rw [hnobody] at hperm
      have hsilent := List.filterMap_eq_nil_iff.mp hperm.nil_eq.symm
      exact .inr (.inr ⟨hnone, hnobody, fun t ht => ⟨hsilent t ht, hfinish t ht⟩⟩)
    · cases hd
      rw [hnobody]
      exact .inr (.inl ⟨hnone, hover, by simp⟩)

/-- What is put into the queue is delivered, and stays there unless somebody takes it. -/
theorem Placed.turn {before after : List (Member α)} (h : Sound wait tasks f)
    (hmembers : f.members = before ++ m :: after) (hturn : Turn wait f m m' e) :
    Placed wait tasks (f.turned before m' after e) := by
  have hm : m ∈ f.members := by simp [hmembers]
  cases hcaller : f.caller with
  | starting rest =>
    have hsent := h.placed
    rw [Placed, hcaller] at hsent
    rw [Placed, Flow.caller_turned, hcaller]
    exact congrArg (· ++ e.put?.toList) hsent
  | listening taken =>
    rcases h.placed.of_listening hcaller with ⟨hsent, hpatient⟩
    rw [Placed, Flow.caller_turned, hcaller]
    refine ⟨?_, hpatient⟩
    rw [Flow.turned, ← hsent, List.append_assoc]
  | settled taken =>
    rcases h.placed.of_settled hcaller with ⟨hsent, hconcludes, hhandles⟩
    rw [Placed, Flow.caller_turned, hcaller]
    refine ⟨?_, ?_, ?_⟩
    · rw [Flow.turned, ← hsent, List.append_assoc]
    · show Concludes wait tasks (f.sent ++ e.put?.toList) f.now taken
      cases hput : e.put? with
      | none => simpa using hconcludes
      | some a =>
        rcases hturn.of_put hput with ⟨hphase, hnow, -, -⟩
        have hvalue := ((h.recorded.members m hm).delivering a.value hphase).1
        refine hconcludes.put ?_ (Nat.le_of_eq hnow.symm) (h.staffed.mem_tasks hm) hvalue
        -- who waits for all listens until nobody can deliver
        intro hwait
        have hidle := h.staffed.idle (hhandles hwait) m hm
        rw [hphase] at hidle
        cases hidle
    · intro hwait
      rw [Flow.turned, hhandles hwait]
      exact Nat.zero_sub _
  | returned instant taken =>
    rcases h.placed.of_returned hcaller with ⟨hqueue, hpast, hconcludes, hended⟩
    have hput : e.put? = none := hturn.put?_eq_none (by rw [hcaller]; rfl)
    rw [Placed, Flow.caller_turned, hcaller]
    refine ⟨?_, hpast, ?_, ?_⟩
    · show f.queue ++ e.put?.toList = []
      rw [hput, hqueue]
      rfl
    · show Concludes wait tasks (f.sent ++ e.put?.toList) instant taken
      rw [hput]
      simpa using hconcludes
    · intro hwait
      exact absurd (hended hwait m hm) hturn.not_ended

theorem Placed.move (h : Sound wait tasks f) (hmove : Move wait f f') : Placed wait tasks f' := by
  cases hmove with
  | start hcaller =>
    have hsent := h.placed
    rwa [Placed, hcaller] at hsent
  | listen hcaller =>
    have hsent := h.placed
    rw [Placed, hcaller] at hsent
    exact ⟨hsent, .inr rfl⟩
  | @take a queue taken hcaller hqueue =>
    have hsent := (h.placed.of_listening hcaller).1
    rw [hqueue] at hsent
    cases wait with
    | all => exact ⟨by simpa using hsent, .inl rfl⟩
    | first deadline policy =>
      have hnone : taken = [] := h.placed.taken_eq_nil hcaller (by simp)
      subst hnone
      exact ⟨hsent, .inl ⟨a, queue, hsent.symm, rfl⟩, by simp⟩
  | settle hcaller hqueue hover =>
    refine ⟨(h.placed.of_listening hcaller).1, h.concludes_of_settle hcaller hqueue hover, ?_⟩
    intro hwait
    rcases hover with hhandles | ⟨d, hd, -⟩
    · exact hhandles
    · rw [hwait] at hd
      cases hd
  | close hcaller hjoined =>
    exact ⟨rfl, Nat.le_refl _, (h.placed.of_settled hcaller).2.1, hjoined⟩
  | turn hmembers hturn => exact Placed.turn h hmembers hturn

/-! ## Every schedule -/

theorem sound_begin (wait : Wait) (start : Instant) (tasks : List (Task α)) :
    Sound wait tasks (.begin start tasks) where
  staffed := ⟨rfl, rfl, rfl⟩
  recorded := ⟨by simp [Flow.begin], .refl _, .nil, by simp [Flow.begin]⟩
  placed := rfl

theorem Sound.pass (h : Sound wait tasks f) (hle : f.now ≤ instant) :
    Sound wait tasks { f with now := instant } where
  staffed := ⟨h.staffed.tasks_eq, h.staffed.capacity_eq, h.staffed.handles_eq⟩
  recorded := {
    members := fun m hm => (h.recorded.members m hm).mono id hle
    perm := h.recorded.perm
    sorted := h.recorded.sorted
    past := fun a ha => (h.recorded.past a ha).trans hle }
  placed := by
    have hplaced := h.placed
    unfold Placed at hplaced ⊢
    cases hcaller : f.caller with
    | starting rest | listening taken =>
      rw [hcaller] at hplaced
      exact hplaced
    | settled taken =>
      rw [hcaller] at hplaced
      exact ⟨hplaced.1, hplaced.2.1.mono hle, hplaced.2.2⟩
    | returned earlier taken =>
      rw [hcaller] at hplaced
      exact ⟨hplaced.1, hplaced.2.1.trans hle, hplaced.2.2⟩

theorem Sound.move (h : Sound wait tasks f) (hmove : Move wait f f') : Sound wait tasks f' :=
  ⟨h.staffed.move hmove, h.recorded.move h.placed hmove, Placed.move h hmove⟩

/-- Whatever happens, and in whatever order. -/
theorem Steps.sound {start : Instant} (h : Steps wait (.begin start tasks) f) :
    Sound wait tasks f := by
  induction h with
  | refl => exact sound_begin wait start tasks
  | tail _ hstep ih =>
    cases hstep with
    | move hmove => exact ih.move hmove
    | pass hle => exact ih.pass hle

/-! ## Nothing comes twice -/

/-- What comes out of a list when it does comes in the same order as everything else. -/
theorem filterMap_sublist_of_imp {β γ : Type} {g g' : β → Option γ} {bs : List β}
    (h : ∀ b ∈ bs, ∀ c, g b = some c → g' b = some c) :
    (bs.filterMap g).Sublist (bs.filterMap g') := by
  induction bs with
  | nil => exact .refl _
  | cons b rest ih =>
    have ih := ih fun b hb => h b (List.mem_cons_of_mem _ hb)
    cases hg : g b with
    | none =>
      rw [List.filterMap_cons_none hg]
      refine ih.trans ?_
      cases hg' : g' b with
      | none => rw [List.filterMap_cons_none hg']
      | some c =>
        rw [List.filterMap_cons_some hg']
        exact List.sublist_cons_self _ _
    | some c =>
      rw [List.filterMap_cons_some hg, List.filterMap_cons_some (h b List.mem_cons_self c hg)]
      exact ih.cons_cons c

/-- What is delivered comes from the tasks, and from no task twice. -/
theorem Sound.sent_subperm (h : Sound wait tasks f) :
    (f.sent.map Arrival.value).Subperm (tasks.filterMap fun t => t.value.join) := by
  have hperm := h.recorded.perm.map Arrival.value
  rw [List.map_filterMap] at hperm
  refine hperm.subperm.trans (List.Sublist.subperm ?_)
  -- tasks that have still to be started come later
  have htasks : (f.members.map Member.task).Sublist tasks := by
    rw [← h.staffed.tasks_eq]
    exact List.sublist_append_left _ _
  refine .trans ?_ (htasks.filterMap _)
  rw [List.filterMap_map]
  refine filterMap_sublist_of_imp ?_
  intro m hm value hvalue
  rcases Option.map_eq_some_iff.mp hvalue with ⟨a, ha, rfl⟩
  exact ((h.recorded.members m hm).sent a ha).1

/-! ## Room for everybody -/

/-- What is in the queue has been delivered. -/
theorem Placed.length_queue_le (h : Placed wait tasks f) : f.queue.length ≤ f.sent.length := by
  cases hopen : f.caller.isOpen with
  | true =>
    rw [← h.sent_eq hopen, List.length_append]
    exact Nat.le_add_left _ _
  | false =>
    rw [(h.of_closed hopen).1]
    exact Nat.zero_le _

/-- Each task delivers at most once, and who may still deliver something has not yet. -/
theorem Sound.length_sent_add_le (h : Sound wait tasks f) :
    f.sent.length + f.members.countP (fun m => m.phase.isBusy) ≤ tasks.length := by
  have hmembers : f.members.length ≤ tasks.length := by
    rw [← h.staffed.tasks_eq]
    simp
  have hsent := h.recorded.perm.length_eq
  rw [List.length_filterMap_eq_countP] at hsent
  -- a task counts once: it has delivered something, or it may still do so, but not both
  have hall := f.members.length_eq_countP_add_countP fun m => m.sent?.isSome
  have hunsent : f.members.countP (fun m => m.phase.isBusy) ≤
      f.members.countP fun m => ¬ m.sent?.isSome := by
    refine List.countP_mono_left fun m hm hbusy => ?_
    simp [(h.recorded.members m hm).unsent hbusy]
  omega

/-- The queue never holds more than it can. -/
theorem Sound.length_queue_le (h : Sound wait tasks f) : f.queue.length ≤ f.capacity := by
  have hqueue := h.placed.length_queue_le
  have hsent := h.length_sent_add_le
  rw [h.staffed.capacity_eq]
  omega

/-- Nobody finds the queue full. -/
theorem Sound.length_queue_lt (h : Sound wait tasks f) (hm : m ∈ f.members)
    (hbusy : m.phase.isBusy = true) : f.queue.length < f.capacity := by
  have hqueue := h.placed.length_queue_le
  have hsent := h.length_sent_add_le
  have hcount : 0 < f.members.countP fun m => m.phase.isBusy :=
    List.countP_pos_iff.mpr ⟨m, hm, hbusy⟩
  rw [h.staffed.capacity_eq]
  omega

end TxGateway.Scope
