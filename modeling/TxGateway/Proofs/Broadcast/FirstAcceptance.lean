import Mathlib.Logic.Relation
import TxGateway.Proofs.Broadcast.Verdict

namespace TxGateway.Broadcast

/-! # The first acceptance

A caller may look at the latch while tasks of the broadcast are still busy, so what it shows is
stated for every point on the way. A task that ends writes the latch, if it accepts, and only then
puts its report into the queue that the verdict is made of. Tasks that are due at the same instant
end in any order, and reports may be late in the queue.

* `TakenAt` is the instant at which a task ends in acceptance.
* `Underway` is a broadcast on its way, and `Step` is what may happen next.
* `Lawful` is the invariant: `Lawful.step` is the step, and `lawful_of_reached` is about all states.
* `exists_reached_of_run` says that the run of a broadcast is one of the ways.
* `latch_agrees_with_verdict` is what a caller may rely on.
-/

/-! ## When a task ends -/

/-- One task of a broadcast: whom it submits to, and how the outside responds to it. -/
structure Errand where
  provider : Provider
  outside : World

variable {start : Instant} {request : Request} {e : Errand} {t : Instant}

/-- When the task ends, in whatever way. -/
def Errand.ends (start : Instant) (request : Request) (e : Errand) : Instant :=
  (attempt request e.provider e.outside start).finish

/-- What the task reports, unless it is lost. -/
def Errand.report? (start : Instant) (request : Request) (e : Errand) : Option Report :=
  Broadcast.report? e.outside start request e.provider

/-- The task ends in acceptance at an instant. -/
inductive TakenAt (start : Instant) (request : Request) (e : Errand) : Instant → Prop
  | accepted {d : Nat} (h : request.submission e.provider e.outside start = .answer d (.ok ()))
      (hd : start + d ≤ request.deadline) : TakenAt start request e (start + d)
  | known {err : ProviderError} {t : Instant}
      (h : Refused e.outside start request e.provider err t)
      (hwords : Wording.classify err.message = .alreadyKnown) : TakenAt start request e t
  | found {err : ProviderError} {t : Instant} {r : TxRecord}
      (h : Refused e.outside start request e.provider err t)
      (hwords : Wording.classify err.message = .questionable)
      (hfound : (request.inquiry e.outside t).value = some (some r)) :
      TakenAt start request e (request.inquiry e.outside t).finish

theorem TakenAt.taken (h : TakenAt start request e t) :
    Taken e.outside start request e.provider := by
  cases h with
  | accepted h hd => exact .accepted h hd
  | known h hwords => exact .known h hwords
  | found h hwords hfound => exact .found h hwords hfound

theorem Taken.exists_takenAt (h : Taken e.outside start request e.provider) :
    ∃ t, TakenAt start request e t := by
  cases h with
  | accepted h hd => exact ⟨_, .accepted h hd⟩
  | known h hwords => exact ⟨_, .known h hwords⟩
  | found h hwords hfound => exact ⟨_, .found h hwords hfound⟩

theorem TakenAt.ends_eq (hstart : start ≤ request.deadline) (h : TakenAt start request e t) :
    e.ends start request = t := by
  unfold Errand.ends
  cases h with
  | accepted h hd => rw [attempt_of_accepted h (by lia)]
  | known h hwords =>
    obtain ⟨fate, hattempt⟩ := attempt_of_refused hstart h
    rw [hattempt, settle_of_known hwords]
  | found h hwords hfound =>
    obtain ⟨fate, hattempt⟩ := attempt_of_refused hstart h
    rw [hattempt, settle_of_questionable hwords]

theorem Errand.report?_provider (hstart : start ≤ request.deadline) {r : Report}
    (h : e.report? start request = some r) : r.provider = e.provider.name := by
  unfold Errand.report? Broadcast.report? at h
  rcases attempt_value_cases hstart e.provider e.outside with hv | ⟨_, hv⟩ | ⟨err, t, _, hv⟩
  · rw [hv] at h
    cases h
    rfl
  · rw [hv] at h
    cases h
  · rw [hv, Option.join_eq_some_iff, Option.map_eq_some_iff] at h
    rcases h with ⟨failure, _, hr⟩
    cases hr
    rfl

/-- What the latch is to be told when the task ends, if it accepts. -/
def Errand.acceptance? (start : Instant) (request : Request) (e : Errand) :
    Option (Arrival String) :=
  ((e.report? start request).filter Report.isAcceptance).map fun r =>
    ⟨e.ends start request, r.provider⟩

theorem Errand.acceptance?_eq_some (hstart : start ≤ request.deadline) {a : Arrival String} :
    e.acceptance? start request = some a ↔
      a.value = e.provider.name ∧ TakenAt start request e a.instant := by
  simp only [acceptance?, Option.map_eq_some_iff, Option.filter_eq_some_iff]
  constructor
  · rintro ⟨r, ⟨hreport, haccept⟩, rfl⟩
    obtain ⟨t, ht⟩ := ((isAcceptance_iff_taken hstart).mp ⟨r, hreport, haccept⟩).exists_takenAt
    refine ⟨report?_provider hstart hreport, ?_⟩
    rwa [← ht.ends_eq hstart] at ht
  · rintro ⟨hvalue, htaken⟩
    obtain ⟨r, hreport, haccept⟩ := (isAcceptance_iff_taken hstart).mpr htaken.taken
    refine ⟨r, ⟨hreport, haccept⟩, ?_⟩
    rw [report?_provider hstart hreport, htaken.ends_eq hstart, ← hvalue]

/-- To accept is to report an acceptance. -/
theorem exists_takenAt_iff (hstart : start ≤ request.deadline) :
    (∃ t, TakenAt start request e t) ↔
      ∃ r, e.report? start request = some r ∧ r.isAcceptance = true :=
  ⟨fun ⟨_, h⟩ => (isAcceptance_iff_taken hstart).mpr h.taken,
    fun h => ((isAcceptance_iff_taken hstart).mp h).exists_takenAt⟩

/-! ## A broadcast on its way -/

structure Underway where
  now : Instant
  /-- The tasks that have not ended. -/
  running : List Errand
  /-- The tasks that have ended, in that order. -/
  ended : List Errand
  /-- Reports that are not in the queue yet. -/
  unsent : List Report
  queue : List Report
  latch : Latch

namespace Underway

/-- All tasks have been started, and none has ended. -/
def begin (start : Instant) (errands : List Errand) : Underway := ⟨start, errands, [], [], [], {}⟩

/-- Nothing more is to come, and the verdict is made of the queue. -/
def Over (s : Underway) : Prop := s.running = [] ∧ s.unsent = []

end Underway

/-- The latch when a task has ended, with a report or without one. -/
def noted (latch : Latch) (now : Instant) : Option Report → Latch
  | some r => if r.isAcceptance then latch.record ⟨now, r.provider⟩ else latch
  | none => latch

/-- What may happen to a broadcast on its way. -/
inductive Step (start : Instant) (request : Request) : Underway → Underway → Prop
  /-- Time passes, but not beyond the end of a task. -/
  | pass {s : Underway} {t : Instant} (hle : s.now ≤ t)
      (hdue : ∀ e ∈ s.running, t ≤ e.ends start request) :
      Step start request s { s with now := t }
  /-- A task that is due ends. -/
  | finish {s : Underway} {before after : List Errand} {e : Errand}
      (hrunning : s.running = before ++ e :: after) (hdue : e.ends start request = s.now) :
      Step start request s
        { s with
          running := before ++ after
          ended := s.ended ++ [e]
          unsent := s.unsent ++ (e.report? start request).toList
          latch := noted s.latch s.now (e.report? start request) }
  /-- A report gets into the queue. -/
  | send {s : Underway} {before after : List Report} {r : Report}
      (hunsent : s.unsent = before ++ r :: after) :
      Step start request s { s with unsent := before ++ after, queue := s.queue ++ [r] }

abbrev Steps (start : Instant) (request : Request) : Underway → Underway → Prop :=
  Relation.ReflTransGen (Step start request)

/-- Steps in which no time passes while a report is not in the queue yet. -/
abbrev PromptSteps (start : Instant) (request : Request) : Underway → Underway → Prop :=
  Relation.ReflTransGen fun s s' => Step start request s s' ∧ (s.unsent = [] ∨ s'.now = s.now)

theorem PromptSteps.steps {s s' : Underway} (h : PromptSteps start request s s') :
    Steps start request s s' := by
  induction h with
  | refl => exact .refl
  | tail _ hstep ih => exact ih.tail hstep.1

variable {errands : List Errand} {s s' : Underway}

/-- What is true of a broadcast at every point of its way. -/
structure Lawful (start : Instant) (request : Request) (errands : List Errand) (s : Underway) :
    Prop where
  tasks : (s.ended ++ s.running).Perm errands
  due : ∀ e ∈ s.running, s.now ≤ e.ends start request
  past : ∀ e ∈ s.ended, e.ends start request ≤ s.now
  order : s.ended.Pairwise fun a b => a.ends start request ≤ b.ends start request
  reports : (s.queue ++ s.unsent).Perm (s.ended.filterMap (Errand.report? start request))
  latch : s.latch.first = s.ended.findSome? (Errand.acceptance? start request)

theorem noted_first (latch : Latch) (e : Errand) :
    (noted latch (e.ends start request) (e.report? start request)).first =
      latch.first.or (e.acceptance? start request) := by
  unfold Errand.acceptance?
  cases e.report? start request with
  | none => simp [noted]
  | some r => by_cases h : r.isAcceptance <;> simp [noted, Latch.record, Option.filter, h]

theorem lawful_begin : Lawful start request errands (.begin start errands) where
  tasks := .refl _
  due := fun e _ => ((makes_attempt request e.provider).gapless e.outside start).le
  past := fun _ h => nomatch h
  order := .nil
  reports := .refl _
  latch := rfl

/-- An element that moves from the middle of the second list to the end of the first. -/
theorem perm_of_moved {α : Type} {front before after all : List α} {a : α}
    (h : (front ++ (before ++ a :: after)).Perm all) :
    (front ++ [a] ++ (before ++ after)).Perm all := by
  refine .trans ?_ h
  rw [List.append_assoc, List.singleton_append]
  exact List.Perm.append_left _ List.perm_middle.symm

theorem Lawful.step (h : Lawful start request errands s) (hstep : Step start request s s') :
    Lawful start request errands s' := by
  cases hstep with
  | pass hle hdue =>
    exact ⟨h.tasks, hdue, fun e he => (h.past e he).trans hle, h.order, h.reports, h.latch⟩
  | @finish before after e hrunning hdue =>
    have htasks := h.tasks
    have hrest := h.due
    rw [hrunning] at htasks hrest
    constructor
    · exact perm_of_moved htasks
    · intro q hq
      refine hrest q ?_
      simp only [List.mem_append, List.mem_cons] at hq ⊢
      exact hq.imp_right .inr
    · exact List.forall_mem_append.mpr ⟨h.past, by simp [hdue]⟩
    · -- the task that ends now does so no earlier than those before
      refine List.pairwise_append.mpr ⟨h.order, List.pairwise_singleton _ _, ?_⟩
      intro a ha b hb
      rw [List.mem_singleton.mp hb, hdue]
      exact h.past a ha
    · show (s.queue ++ (s.unsent ++ _)).Perm _
      rw [← List.append_assoc, List.filterMap_append]
      refine h.reports.append ?_
      cases hreport : e.report? start request <;> simp [hreport]
    · show (noted s.latch s.now _).first = _
      rw [← hdue, noted_first, h.latch, List.findSome?_append]
      simp
  | @send before after r hunsent =>
    refine ⟨h.tasks, h.due, h.past, h.order, ?_, h.latch⟩
    have hreports := h.reports
    rw [hunsent] at hreports
    exact perm_of_moved hreports

theorem lawful_of_reached (h : Steps start request (.begin start errands) s) :
    Lawful start request errands s := by
  induction h with
  | refl => exact lawful_begin
  | tail _ hstep ih => exact ih.step hstep

/-! ## What the latch shows -/

namespace Lawful

variable (h : Lawful start request errands s) (hstart : start ≤ request.deadline)

include h hstart

/-- The latch is set as soon as a task has ended in acceptance, and not before. -/
theorem isSet_iff :
    s.latch.isSet = true ↔ ∃ e ∈ s.ended, ∃ t, TakenAt start request e t := by
  rw [Latch.isSet, h.latch, List.findSome?_isSome_iff]
  constructor
  · rintro ⟨e, he, haccept⟩
    obtain ⟨a, ha⟩ := Option.isSome_iff_exists.mp haccept
    exact ⟨e, he, _, ((Errand.acceptance?_eq_some hstart).mp ha).2⟩
  · rintro ⟨e, he, t, ht⟩
    have ha : e.acceptance? start request = some ⟨t, e.provider.name⟩ :=
      (Errand.acceptance?_eq_some hstart).mpr ⟨rfl, ht⟩
    exact ⟨e, he, by rw [ha]; rfl⟩

theorem isSet_of_takenAt (he : e ∈ errands) (ht : TakenAt start request e t) (hnow : t < s.now) :
    s.latch.isSet = true := by
  refine (h.isSet_iff hstart).mpr ⟨e, ?_, t, ht⟩
  rcases List.mem_append.mp (h.tasks.mem_iff.mpr he) with hended | hrunning
  · exact hended
  · have hdue := h.due e hrunning
    rw [ht.ends_eq hstart] at hdue
    exact absurd hdue (Nat.not_le_of_lt hnow)

/-- The latch holds the name of a provider whose task was the earliest to accept. -/
theorem earliest {a : Arrival String} (ha : s.latch.first = some a) :
    (∃ e ∈ s.ended, a.value = e.provider.name ∧ TakenAt start request e a.instant) ∧
      ∀ e ∈ errands, ∀ t, TakenAt start request e t → a.instant ≤ t := by
  rw [h.latch] at ha
  obtain ⟨before, e, after, hended, hae, hbefore⟩ := List.findSome?_eq_some_iff.mp ha
  obtain ⟨hvalue, htaken⟩ := (Errand.acceptance?_eq_some hstart).mp hae
  have he : e ∈ s.ended := by simp [hended]
  refine ⟨⟨e, he, hvalue, htaken⟩, ?_⟩
  intro b hb t ht
  have hends := ht.ends_eq hstart
  rw [← htaken.ends_eq hstart, ← hends]
  rcases List.mem_append.mp (h.tasks.mem_iff.mpr hb) with hbended | hbrunning
  · rw [hended, List.mem_append, List.mem_cons] at hbended
    have horder := h.order
    rw [hended, List.pairwise_append, List.pairwise_cons] at horder
    rcases hbended with hbefore' | rfl | hafter
    · -- no task that ended before has accepted
      have haccept : b.acceptance? start request = some ⟨t, b.provider.name⟩ :=
        (Errand.acceptance?_eq_some hstart).mpr ⟨rfl, ht⟩
      rw [hbefore b hbefore'] at haccept
      cases haccept
    · exact Nat.le_refl _
    · exact horder.2.1.1 b hafter
  · exact (h.past e he).trans (h.due b hbrunning)

/-- When nothing more is to come, the queue is worth what the latch has shown. -/
theorem verdict_of_over (hover : s.Over) : verdict s.queue = .ok () ↔ s.latch.isSet = true := by
  rw [(verdict_decides s.queue).1, h.isSet_iff hstart]
  have hreports := h.reports
  rw [hover.2, List.append_nil] at hreports
  simp only [hreports.mem_iff, List.mem_filterMap, exists_takenAt_iff hstart]
  constructor
  · rintro ⟨r, ⟨e, he, hr⟩, haccept⟩
    exact ⟨e, he, r, hr, haccept⟩
  · rintro ⟨e, he, r, hr, haccept⟩
    exact ⟨r, ⟨e, he, hr⟩, haccept⟩

end Lawful

/-- What is in a latch stays there. -/
theorem record_of_isSet {latch : Latch} (h : latch.isSet = true) (a : Arrival String) :
    latch.record a = latch := by
  obtain ⟨b, hb⟩ := Option.isSome_iff_exists.mp h
  show Latch.mk (latch.first.or (some a)) = latch
  rw [hb]
  exact congrArg Latch.mk hb.symm

theorem Step.latch_eq (h : Step start request s s') (hset : s.latch.isSet = true) :
    s'.latch = s.latch := by
  cases h with
  | pass hle hdue => rfl
  | @finish before after e hrunning hdue =>
    show noted s.latch s.now (e.report? start request) = s.latch
    unfold noted
    split
    · split
      · exact record_of_isSet hset _
      · rfl
    · rfl
  | send hunsent => rfl

theorem Steps.latch_eq (h : Steps start request s s') (hset : s.latch.isSet = true) :
    s'.latch = s.latch := by
  induction h with
  | refl => rfl
  | tail _ hstep ih => rw [hstep.latch_eq (by rw [ih]; exact hset), ih]

/-! ## The run is one of the ways -/

/-- All reports that are there may get into the queue. -/
theorem prompt_sent (s : Underway) :
    PromptSteps start request s { s with unsent := [], queue := s.queue ++ s.unsent } := by
  obtain ⟨now, running, ended, unsent, queue, latch⟩ := s
  induction unsent generalizing queue with
  | nil => simpa using Relation.ReflTransGen.refl
  | cons r rest ih =>
    have hsend := @Step.send start request ⟨now, running, ended, r :: rest, queue, latch⟩ [] rest r
      rfl
    have hrest := ih (queue ++ [r])
    rw [List.append_assoc, List.singleton_append] at hrest
    exact .head ⟨hsend, .inr rfl⟩ hrest

/-- Tasks may end in any order of time, and report at once. -/
theorem exists_prompt_of_order {order : List Errand} (s : Underway)
    (hrunning : s.running.Perm order) (hunsent : s.unsent = [])
    (hdue : ∀ e ∈ order, s.now ≤ e.ends start request)
    (hsorted : order.Pairwise fun a b => a.ends start request ≤ b.ends start request) :
    ∃ s', PromptSteps start request s s' ∧ s'.Over ∧
      s'.now = order.foldl (fun latest e => max latest (e.ends start request)) s.now ∧
      s'.queue = s.queue ++ order.filterMap (Errand.report? start request) ∧
      s'.latch.first = s.latch.first.or (order.findSome? (Errand.acceptance? start request)) := by
  induction order generalizing s with
  | nil => exact ⟨s, .refl, ⟨hrunning.eq_nil, hunsent⟩, rfl, by simp, by simp⟩
  | cons e rest ih =>
    obtain ⟨hnext, hsorted⟩ := List.pairwise_cons.mp hsorted
    obtain ⟨before, after, hsplit⟩ :=
      List.append_of_mem (hrunning.mem_iff.mpr List.mem_cons_self)
    have hnow := hdue e List.mem_cons_self
    -- time goes on until the first task ends; it ends, and its report is sent at once
    have hpass : Step start request s { s with now := e.ends start request } := by
      refine .pass hnow fun b hb => ?_
      rcases List.mem_cons.mp (hrunning.mem_iff.mp hb) with rfl | hb
      · exact Nat.le_refl _
      · exact hnext b hb
    have hfinish := Step.finish (s := { s with now := e.ends start request }) hsplit rfl
    have hrest : (before ++ after).Perm rest := by
      rw [hsplit] at hrunning
      exact (List.perm_middle.symm.trans hrunning).cons_inv
    let sent : Underway := {
      now := e.ends start request
      running := before ++ after
      ended := s.ended ++ [e]
      unsent := []
      queue := s.queue ++ (s.unsent ++ (e.report? start request).toList)
      latch := noted s.latch (e.ends start request) (e.report? start request) }
    have hsent : PromptSteps start request s sent :=
      ((Relation.ReflTransGen.single ⟨hpass, .inl hunsent⟩).tail ⟨hfinish, .inr rfl⟩).trans
        (prompt_sent _)
    obtain ⟨s', hsteps, hover, hnow', hqueue, hlatch⟩ := ih sent hrest rfl hnext hsorted
    refine ⟨s', hsent.trans hsteps, hover, ?_, ?_, ?_⟩
    · rw [hnow', List.foldl_cons, Nat.max_eq_right hnow]
    · rw [hqueue]
      cases hreport : e.report? start request <;> simp [sent, hunsent, hreport]
    · show s'.latch.first = _
      rw [hlatch, noted_first, List.findSome?_cons, Option.or_assoc]
      cases e.acceptance? start request <;> rfl

theorem recordAll_first (latch : Latch) (names : List (Arrival String)) :
    (latch.recordAll names).first = latch.first.or names.head? := by
  induction names generalizing latch with
  | nil => simp [Latch.recordAll]
  | cons a rest ih =>
    show ((latch.record a).recordAll rest).first = _
    rw [ih, Latch.record, Option.or_assoc]
    rfl

variable {w : World} {providers : List Provider}

/-- The tasks of a broadcast when the outside is the same for all. -/
def errandsTo (w : World) (providers : List Provider) : List Errand :=
  providers.map fun p => ⟨p, w⟩

/-- What arrives in the run of a broadcast, as the tasks in some order of time deliver it. -/
theorem exists_order_of_run (w : World) (start : Instant) (request : Request)
    (providers : List Provider) :
    ∃ order : List Errand, order.Perm (errandsTo w providers) ∧
      order.Pairwise (fun a b => a.ends start request ≤ b.ends start request) ∧
      let reports := Scope.arrivals start (providers.map fun p => attempt request p w start)
      reports.map Arrival.value = order.filterMap (Errand.report? start request) ∧
      acceptances reports = order.filterMap (Errand.acceptance? start request) := by
  let task := fun e : Errand => attempt request e.provider e.outside start
  have htasks : (errandsTo w providers).map task =
      providers.map fun p => attempt request p w start := by
    simp [errandsTo, task, Function.comp_def]
  have htimed : Scope.WellTimed start ((errandsTo w providers).map task) := by
    rw [htasks]
    exact wellTimed_attempts w start request providers
  obtain ⟨order, hperm, hsorted, harrivals⟩ := Scope.exists_order task _ htimed
  refine ⟨order, hperm, hsorted, ?_, ?_⟩
  · rw [← htasks, ← harrivals, List.map_filterMap]
    congr 1
    funext e
    simp [Scope.delivery?, task, Errand.report?, report?, Function.comp_def]
  · rw [← htasks, ← harrivals, acceptances, List.filter_filterMap, List.map_filterMap]
    congr 1
    funext e
    show _ = ((attempt request e.provider e.outside start).value.join.filter _).map _
    cases h : (attempt request e.provider e.outside start).value.join with
    | none => simp [Scope.delivery?, task, h]
    | some r =>
      cases hr : r.isAcceptance <;>
        simp [Scope.delivery?, task, h, hr, Option.filter, Errand.ends]

/-- The run comes about if every report is sent at once. -/
theorem exists_prompt_of_run (hproviders : providers ≠ []) :
    ∃ s, PromptSteps start request (.begin start (errandsTo w providers)) s ∧ s.Over ∧
      s.now = (run w start providers request {}).moment.instant ∧
      verdict s.queue = (run w start providers request {}).result.result ∧
      s.latch = (run w start providers request {}).result.latch := by
  obtain ⟨order, hperm, hsorted, hreports, hacceptances⟩ :=
    exists_order_of_run w start request providers
  obtain ⟨s, hsteps, hover, hnow, hqueue, hlatch⟩ := exists_prompt_of_order
    (.begin start (errandsTo w providers)) hperm.symm rfl
    (fun e _ => ((makes_attempt request e.provider).gapless e.outside start).le) hsorted
  refine ⟨s, hsteps, hover, ?_⟩
  rw [run_of_ne_nil hproviders]
  refine ⟨?_, ?_, ?_⟩
  · have hfinish : Scope.finish start _ = Scope.finish start _ :=
      Scope.finish_perm (hperm.map fun e => attempt request e.provider e.outside start)
    rw [hnow]
    simpa [Run.map, Scope.drain, Scope.finish, errandsTo, Errand.ends, Underway.begin,
      List.foldl_map] using hfinish
  · show verdict s.queue = verdict ((Scope.arrivals _ _).map Arrival.value)
    rw [hqueue, hreports]
    rfl
  · have hfirst := congrArg List.head? hacceptances
    rw [List.head?_filterMap] at hfirst
    rw [← hfirst] at hlatch
    exact congrArg Latch.mk (hlatch.trans (recordAll_first {} _).symm)

theorem exists_reached_of_run (hproviders : providers ≠ []) :
    ∃ s, Steps start request (.begin start (errandsTo w providers)) s ∧ s.Over ∧
      s.now = (run w start providers request {}).moment.instant ∧
      verdict s.queue = (run w start providers request {}).result.result ∧
      s.latch = (run w start providers request {}).result.latch := by
  rcases exists_prompt_of_run hproviders with ⟨s, hsteps, hrest⟩
  exact ⟨s, PromptSteps.steps hsteps, hrest⟩

/-! ## What a caller may rely on -/

theorem latch_eq_empty {latch : Latch} (h : ¬ latch.isSet = true) : latch = {} := by
  have hnone : latch.first = none := by simpa [Latch.isSet] using h
  exact congrArg Latch.mk hnone

/-- After a broadcast the latch is set if and only if the result is success. -/
theorem isSet_of_run_iff (hstart : start ≤ request.deadline) :
    (run w start providers request {}).result.latch.isSet = true ↔
      (run w start providers request {}).result.result = .ok () := by
  by_cases hproviders : providers = []
  · subst hproviders
    simp [run, Run.done, Latch.isSet]
  · obtain ⟨s, hsteps, hover, -, hverdict, hlatch⟩ := exists_reached_of_run hproviders
    rw [← hlatch, ← hverdict]
    exact ((lawful_of_reached hsteps).verdict_of_over hstart hover).symm

/-- A gateway's broadcast comes down to input errors and a run of its own. -/
theorem broadcast_eq (g : Gateway) (w : World) (start : Instant) (id hex : String) (limit : Nat)
    (latch : Latch) :
    g.broadcast w start id hex limit latch =
      if TxId.isLongEnough id = true ∧ Text.isBlankText hex = false then
        run w start (g.providers .broadcast) (requestOf g start id hex limit) latch
      else if TxId.isLongEnough id = true then Run.done ⟨.error .blankHex, latch⟩ start
      else Run.done ⟨.error .shortId, latch⟩ start := by
  unfold Gateway.broadcast
  cases TxId.isLongEnough id <;> cases Text.isBlankText hex <;> rfl

/-- Input that is not refused is handed to the providers. -/
theorem broadcast_of_valid {g : Gateway} {w : World} {start : Instant} {id hex : String}
    {limit : Nat} {latch : Latch} (hid : TxId.isLongEnough id = true)
    (hhex : Text.isBlankText hex = false) :
    g.broadcast w start id hex limit latch =
      run w start (g.providers .broadcast) (requestOf g start id hex limit) latch := by
  rw [broadcast_eq, if_pos ⟨hid, hhex⟩]

/-- A broadcast succeeds if the task of one provider ends in acceptance. -/
theorem broadcast_of_taken {g : Gateway} {w : World} {start : Instant} {id hex : String}
    {limit : Nat} {p : Provider} (latch : Latch) (hid : TxId.isLongEnough id = true)
    (hhex : Text.isBlankText hex = false) (hp : p ∈ g.providers .broadcast)
    (htaken : Taken w start (requestOf g start id hex limit) p) :
    (g.broadcast w start id hex limit latch).result.result = .ok () := by
  rw [broadcast_of_valid hid hhex]
  exact (run_decides (List.ne_nil_of_mem hp) (Nat.le_add_right start limit) (.refl _) latch).1.mpr
    ⟨p, hp, htaken⟩

/-- At every point of a broadcast, whatever its tasks meet outside and in whatever order they end,
the latch is set if and only if some task has ended in acceptance. It then holds the name of a
provider whose task was the earliest to do so, never changes again, and the verdict will be success.
When nothing more is to come it is set if and only if the verdict is success. So it is after the
broadcast of a gateway, whose run is one of the ways; an error of any kind leaves it unset. -/
theorem latch_agrees_with_verdict (g : Gateway) (start : Instant) (id hex : String)
    (limit : Nat) :
    let request := requestOf g start id hex limit
    (∀ (errands : List Errand) (s : Underway),
      errands.map Errand.provider = g.providers .broadcast →
      Steps start request (.begin start errands) s →
      (s.latch.isSet = true ↔ ∃ e ∈ s.ended, ∃ t, TakenAt start request e t) ∧
      (∀ e ∈ errands, ∀ t < s.now, TakenAt start request e t → s.latch.isSet = true) ∧
      (∀ a, s.latch.first = some a →
        (∃ e ∈ s.ended, a.value = e.provider.name ∧ TakenAt start request e a.instant) ∧
        ∀ e ∈ errands, ∀ t, TakenAt start request e t → a.instant ≤ t) ∧
      (s.latch.isSet = true → ∀ s', Steps start request s s' →
        s'.latch = s.latch ∧ (s'.Over → verdict s'.queue = .ok ())) ∧
      (s.Over → (s.latch.isSet = true ↔ verdict s.queue = .ok ()))) ∧
    (∀ w : World,
      let outcome := (g.broadcast w start id hex limit {}).result
      (outcome.latch.isSet = true ↔ outcome.result = .ok ()) ∧
      ∀ f, outcome.result = .error f → outcome.latch = {}) ∧
    (∀ w : World, TxId.isLongEnough id = true → Text.isBlankText hex = false →
      g.providers .broadcast ≠ [] →
      let step := g.broadcast w start id hex limit {}
      ∃ s, Steps start request (.begin start (errandsTo w (g.providers .broadcast))) s ∧ s.Over ∧
        s.now = step.moment.instant ∧ verdict s.queue = step.result.result ∧
        s.latch = step.result.latch) := by
  intro request
  have hstart : start ≤ request.deadline := Nat.le_add_right start limit
  refine ⟨?_, ?_, ?_⟩
  · intro errands s _ hsteps
    have hlawful := lawful_of_reached hsteps
    refine ⟨hlawful.isSet_iff hstart, ?_, fun a ha => hlawful.earliest hstart ha, ?_,
      fun hover => (hlawful.verdict_of_over hstart hover).symm⟩
    · exact fun e he t hnow ht => hlawful.isSet_of_takenAt hstart he ht hnow
    · intro hset s' hlater
      have hlatch := hlater.latch_eq hset
      refine ⟨hlatch, fun hover => ?_⟩
      rw [(lawful_of_reached (hsteps.trans hlater)).verdict_of_over hstart hover, hlatch]
      exact hset
  · intro w outcome
    have hiff : outcome.latch.isSet = true ↔ outcome.result = .ok () := by
      simp only [outcome, broadcast_eq]
      split
      · exact isSet_of_run_iff hstart
      · split <;> simp [Run.done, Latch.isSet]
    refine ⟨hiff, fun f hf => latch_eq_empty ?_⟩
    rw [hiff, hf]
    intro hok
    cases hok
  · intro w hid hhex hproviders step
    have hstep : step = run w start (g.providers .broadcast) request {} := by
      simp only [step, broadcast_eq, hid, hhex, and_self, if_true, request]
    rw [hstep]
    exact exists_reached_of_run hproviders

/-- A node proxy that has the transaction already, and an explorer that is slow to take it. -/
def knownToNode : Script where
  explorer := some { name := "slow", published := .ok "", pace := { latency := 7 } }
  nodeProxy := some {
    name := "node"
    published := .error (.rejected "txn-already-known")
    pace := { latency := 3 } }

/-- The latch is set while the explorer is still busy. -/
theorem latch_set_before_verdict :
    let g := Gateway.withoutMiners { nodeProxy := some ⟨"u", some ⟨"k"⟩⟩ } knownToNode.connections
    let slow : Errand := ⟨.outlet .explorer "slow", knownToNode.world⟩
    let node : Errand := ⟨.outlet .nodeProxy "node", knownToNode.world⟩
    let request := requestOf g 0 Search.trialId "00" 10
    let s : Underway := ⟨3, [slow], [node], [⟨"node", none⟩], [], ⟨some ⟨3, "node"⟩⟩⟩
    [slow, node].map Errand.provider = g.providers .broadcast ∧
      Steps 0 request (.begin 0 [slow, node]) s ∧ s.latch.isSet = true ∧
      ∀ s', Steps 0 request s s' → s'.latch = s.latch ∧ (s'.Over → verdict s'.queue = .ok ()) := by
  intro g slow node request s
  have hproviders : [slow, node].map Errand.provider = g.providers .broadcast := by decide
  have hslow : slow.ends 0 request = 7 :=
    (TakenAt.accepted (d := 7) rfl (by decide)).ends_eq (by decide)
  have hrefused : Refused node.outside 0 request node.provider
      (.rejected "txn-already-known") 3 := .answered (d := 3) rfl (by decide)
  have hwords : Wording.classify (ProviderError.rejected "txn-already-known").message =
      .alreadyKnown := by decide
  have hnode : node.ends 0 request = 3 := (TakenAt.known hrefused hwords).ends_eq (by decide)
  have hreport : node.report? 0 request = some ⟨"node", none⟩ := by
    rw [Errand.report?, report?_of_refused (by decide) hrefused, settle_of_known hwords]
    rfl
  let later : Underway := { Underway.begin 0 [slow, node] with now := 3 }
  have hpass : Step 0 request (.begin 0 [slow, node]) later :=
    .pass (by decide) (by simp [Underway.begin, hslow, hnode])
  have hfinish : Step 0 request later s := by
    have h := @Step.finish 0 request later [slow] [] node rfl hnode
    rw [hreport] at h
    exact h
  have hsteps := (Relation.ReflTransGen.single hpass).tail hfinish
  obtain ⟨hall, -, -⟩ := latch_agrees_with_verdict g 0 Search.trialId "00" 10
  obtain ⟨-, -, -, hkept, -⟩ := hall _ s hproviders hsteps
  exact ⟨hproviders, hsteps, rfl, hkept rfl⟩

end TxGateway.Broadcast
