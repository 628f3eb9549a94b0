import TxGateway.Proofs.Broadcast.Failures
import TxGateway.Proofs.Deadline

namespace TxGateway.Broadcast

/-! # A broadcast waits for all of its tasks

One acceptance decides a broadcast, but the broadcast is over only when its last task has ended. A
task may make many calls: a submission, and after a questionable refusal a search with a limit of
its own. All the same none of them outlasts the broadcast.

* `Errand.Timely` is what a task keeps to, whatever it meets outside.
* `Drained` tells the end of a broadcast: the instant at which the last of its tasks ends.
* `drained_of_over` says that a broadcast on its way is over then, and `exists_drained` that it gets
  there from everywhere.
* `broadcast_drains_by_deadline` is about every way that a broadcast may take, and its run.
-/

variable {w : World} {start : Instant} {request : Request} {errands : List Errand}
  {s s' : Underway} {ending : Instant}

/-! ## Tasks in time -/

/-- The calls of the task. -/
def Errand.calls (start : Instant) (request : Request) (e : Errand) : List CallTrace :=
  (attempt request e.provider e.outside start).calls

/-- The limits that a task keeps to. -/
structure Errand.Timely (start : Instant) (request : Request) (e : Errand) : Prop where
  started : start ≤ e.ends start request
  ends : e.ends start request ≤ request.deadline
  calls : ∀ c ∈ e.calls start request,
    start ≤ c.began ∧ c.began ≤ c.ended ∧ c.ended ≤ e.ends start request
  /-- A search that begins at `t` ends within its own limit, and the task ends with it. -/
  search : ∀ err t, Refused e.outside start request e.provider err t →
    Wording.classify err.message = .questionable →
      start ≤ t ∧ t ≤ (request.inquiry e.outside t).finish ∧
      (request.inquiry e.outside t).finish ≤
        min request.deadline (t + request.fallbackLimit) ∧
      e.ends start request = (request.inquiry e.outside t).finish

theorem timely (hstart : start ≤ request.deadline) (e : Errand) : e.Timely start request := by
  have hgapless := (makes_attempt request e.provider).gapless e.outside start
  constructor
  · exact hgapless.le
  · exact endsBy_attempt request e.provider e.outside start hstart
  · intro c hc
    exact ⟨hgapless.le_began hc, hgapless.ended_le hc⟩
  · intro err t hrefused hwords
    rcases hrefused.bounds hstart with ⟨hbegun, hdue⟩
    have hinquiry := (Search.makes_inOrder request.id .mempool
      (min request.deadline (t + request.fallbackLimit)) request.fallback).gapless e.outside t
    refine ⟨hbegun, hinquiry.le, inquiry_finish_le hdue, ?_⟩
    rw [e.ends_of_refused hstart hrefused, settle_of_questionable hwords]

/-! ## The end of a broadcast -/

/-- The instant at which the last task ends, or the start if there is no task. -/
structure Drained (start : Instant) (request : Request) (errands : List Errand)
    (ending : Instant) : Prop where
  all : ∀ e ∈ errands, e.ends start request ≤ ending
  last : (errands = [] ∧ ending = start) ∨ ∃ e ∈ errands, e.ends start request = ending

namespace Drained

theorem start_le (h : Drained start request errands ending) (hstart : start ≤ request.deadline) :
    start ≤ ending := by
  rcases h.last with ⟨_, rfl⟩ | ⟨e, _, rfl⟩
  · exact Nat.le_refl _
  · exact (timely hstart e).started

theorem le_deadline (h : Drained start request errands ending)
    (hstart : start ≤ request.deadline) : ending ≤ request.deadline := by
  rcases h.last with ⟨_, rfl⟩ | ⟨e, _, rfl⟩
  · exact hstart
  · exact (timely hstart e).ends

end Drained

/-- A broadcast is over no earlier than its tasks have ended. -/
theorem Lawful.all_of_over (h : Lawful start request errands s) (hover : s.Over) :
    ∀ e ∈ errands, e.ends start request ≤ s.now := by
  intro e he
  have htasks := h.tasks
  rw [hover.1, List.append_nil] at htasks
  exact h.past e (htasks.mem_iff.mpr he)

/-- A report that is still to be sent belongs to a task that has only just ended. -/
theorem exists_just_ended (hstart : start ≤ request.deadline)
    (hreached : PromptSteps start request (.begin start errands) s) (hunsent : s.unsent ≠ []) :
    ∃ e ∈ errands, e.ends start request = s.now := by
  rcases exists_delivered hstart hreached with ⟨sent, pending, hdelivered⟩
  have hpending : pending ≠ [] := by
    intro hnil
    apply hunsent
    rw [hdelivered.unsent, hnil]
    rfl
  rcases List.exists_mem_of_ne_nil pending hpending with ⟨e, he⟩
  refine ⟨e, ?_, hdelivered.fresh e he⟩
  have hended := hdelivered.tasks.mem_iff.mp (List.mem_append_right sent he)
  apply (lawful_of_reached hreached.steps).tasks.mem_iff.mp
  exact List.mem_append_left _ (List.mem_filter.mp hended).1

/-- The step that makes a broadcast over is taken when the last task ends. -/
theorem drained_of_over (hstart : start ≤ request.deadline)
    (hreached : PromptSteps start request (.begin start errands) s)
    (hstep : Step start request s s') (hnot : ¬ s.Over) (hover : s'.Over) :
    Drained start request errands s'.now := by
  have hlawful := lawful_of_reached hreached.steps
  refine ⟨(hlawful.step hstep).all_of_over hover, .inr ?_⟩
  cases hstep with
  | pass hle hdue =>
    -- when time passes, no task ends and no report is sent
    exact absurd hover hnot
  | @finish before after e hrunning hdue =>
    refine ⟨e, ?_, hdue⟩
    apply hlawful.tasks.mem_iff.mp
    rw [hrunning]
    simp
  | @send before after r hunsent =>
    apply exists_just_ended hstart hreached
    rw [hunsent]
    simp

/-- From wherever a broadcast has got, it can go on until the last of its running tasks ends, and is
over then. -/
theorem exists_over (hlawful : Lawful start request errands s) :
    ∃ s', PromptSteps start request s s' ∧ s'.Over ∧
      s'.now =
        Scope.finish s.now (s.running.map fun e => attempt request e.provider e.outside start) := by
  let sent : Underway := { s with unsent := [], queue := s.queue ++ s.unsent }
  let order := s.running.mergeSort fun a b => a.ends start request ≤ b.ends start request
  have hperm : order.Perm s.running := List.mergeSort_perm _ _
  have hsorted : order.Pairwise fun a b => decide (a.ends start request ≤ b.ends start request) :=
    List.pairwise_mergeSort (by simp; lia) (by simp; lia) s.running
  have hdue : ∀ e ∈ order, s.now ≤ e.ends start request := by
    intro e he
    exact hlawful.due e (hperm.mem_iff.mp he)
  -- the reports that are there are sent first, and then the tasks end one after the other
  rcases exists_prompt_of_order sent hperm.symm rfl hdue (by simpa using hsorted) with
    ⟨s', hsteps, hover, hnow, _⟩
  refine ⟨s', (prompt_sent s).trans hsteps, hover, ?_⟩
  rw [← Scope.finish_perm (hperm.map _), hnow, Scope.finish, List.foldl_map]
  rfl

/-- When it is over then, the last of all its tasks has just ended. -/
theorem exists_drained (hstart : start ≤ request.deadline)
    (hreached : PromptSteps start request (.begin start errands) s) (hnot : ¬ s.Over) :
    ∃ s', PromptSteps start request s s' ∧ s'.Over ∧ Drained start request errands s'.now := by
  have hlawful := lawful_of_reached hreached.steps
  rcases exists_over hlawful with ⟨s', hsteps, hover, hnow⟩
  have hreached' : PromptSteps start request (.begin start errands) s' := hreached.trans hsteps
  have hall := (lawful_of_reached hreached'.steps).all_of_over hover
  refine ⟨s', hsteps, hover, hall, .inr ?_⟩
  by_cases hrunning : s.running = []
  · -- nothing but reports is left, and no time passes
    rw [hnow, hrunning]
    exact exists_just_ended hstart hreached fun hunsent => hnot ⟨hrunning, hunsent⟩
  · rcases Scope.finish_eq_start_or s.now
      (s.running.map fun e => attempt request e.provider e.outside start) with heq | ⟨t, ht, heq⟩
    · -- the running tasks end at this very instant, whichever they are
      rcases List.exists_mem_of_ne_nil s.running hrunning with ⟨e, he⟩
      have hmem : e ∈ errands := hlawful.tasks.mem_iff.mp (List.mem_append_right _ he)
      refine ⟨e, hmem, Nat.le_antisymm (hall e hmem) ?_⟩
      rw [hnow, heq]
      exact hlawful.due e he
    · rcases List.mem_map.mp ht with ⟨e, he, rfl⟩
      refine ⟨e, hlawful.tasks.mem_iff.mp (List.mem_append_right _ he), ?_⟩
      rw [hnow]
      exact heq

/-! ## The run -/

theorem drained_of_run (w : World) (start : Instant) (providers : List Provider)
    (request : Request) (latch : Latch) :
    Drained start request (errandsTo w providers)
      (run w start providers request latch).moment.instant := by
  by_cases hproviders : providers = []
  · subst hproviders
    exact ⟨(fun e he => nomatch he), .inl ⟨rfl, rfl⟩⟩
  · rw [run_of_ne_nil hproviders]
    let tasks := providers.map fun p => attempt request p w start
    have htimed : Scope.WellTimed start tasks := wellTimed_attempts w start request providers
    constructor
    · intro e he
      rcases List.mem_map.mp he with ⟨p, hp, rfl⟩
      exact Scope.le_finish_of_mem (List.mem_map_of_mem hp)
    · right
      rcases Scope.exists_last htimed (by simpa [tasks] using hproviders) with ⟨t, ht, hlast⟩
      rcases List.mem_map.mp ht with ⟨p, hp, rfl⟩
      exact ⟨⟨p, w⟩, List.mem_map_of_mem hp, hlast⟩

/-- Every call of a broadcast is one of a task's, and none is left when it ends. -/
theorem calls_of_run {providers : List Provider} {latch : Latch} {c : CallTrace}
    (hstart : start ≤ request.deadline)
    (hc : c ∈ (run w start providers request latch).allCalls) :
    start ≤ c.began ∧ c.began ≤ c.ended ∧
      c.ended ≤ (run w start providers request latch).moment.instant := by
  by_cases hproviders : providers = []
  · subst hproviders
    cases hc
  · have hdrained := drained_of_run w start providers request latch
    rw [run_of_ne_nil hproviders] at hc
    rcases List.mem_append.mp hc with hc | hc
    · rcases List.mem_flatMap.mp hc with ⟨t, ht, hc⟩
      rcases List.mem_map.mp ht with ⟨p, hp, rfl⟩
      let e : Errand := ⟨p, w⟩
      rcases (timely hstart e).calls c hc with ⟨hbegan, hended, hends⟩
      exact ⟨hbegan, hended, hends.trans (hdrained.all e (List.mem_map_of_mem hp))⟩
    · cases hc

/-- **A broadcast waits for all of its tasks, and not beyond its limit.** Whatever tasks meet
outside, each keeps to its limits. On every way that a broadcast may take, it is not over before all
of its tasks have ended, whether one has accepted or not. If reports are sent as soon as tasks end,
it is over when the last task ends, and it always gets there. So it is with the run of a broadcast,
and with the broadcast of a gateway, which makes no call outside its limit and leaves none open. -/
theorem broadcast_drains_by_deadline (start : Instant) (request : Request)
    (hstart : start ≤ request.deadline) :
    (∀ e : Errand, e.Timely start request) ∧
    (∀ errands : List Errand,
      (∀ s, Steps start request (.begin start errands) s → s.Over →
        ∀ e ∈ errands, e.ends start request ≤ s.now) ∧
      (∀ s s', PromptSteps start request (.begin start errands) s → Step start request s s' →
        ¬ s.Over → s'.Over → Drained start request errands s'.now) ∧
      (∀ s, PromptSteps start request (.begin start errands) s → ¬ s.Over →
        ∃ s', PromptSteps start request s s' ∧ s'.Over ∧ Drained start request errands s'.now) ∧
      ∀ ending, Drained start request errands ending →
        start ≤ ending ∧ ending ≤ request.deadline) ∧
    (∀ (w : World) (providers : List Provider) (latch : Latch),
      let step := run w start providers request latch
      Drained start request (errandsTo w providers) step.moment.instant ∧
      ∀ c ∈ step.allCalls,
        start ≤ c.began ∧ c.began ≤ c.ended ∧ c.ended ≤ step.moment.instant) ∧
    ∀ (g : Gateway) (w : World) (id hex : String) (limit : Nat) (latch : Latch),
      let step := g.broadcast w start id hex limit latch
      (TxId.isLongEnough id = true → Text.isBlankText hex = false →
        Drained start (requestOf g start id hex limit) (errandsTo w (g.providers .broadcast))
          step.moment.instant) ∧
      step.moment.instant ≤ start + limit ∧
      ∀ c ∈ step.allCalls,
        start ≤ c.began ∧ c.began ≤ c.ended ∧ c.ended ≤ step.moment.instant := by
  refine ⟨timely hstart, ?_, ?_, ?_⟩
  · intro errands
    refine ⟨?_, ?_, ?_, ?_⟩
    · intro s hreached hover
      exact (lawful_of_reached hreached).all_of_over hover
    · intro s s' hreached hstep hnot hover
      exact drained_of_over hstart hreached hstep hnot hover
    · intro s hreached hnot
      exact exists_drained hstart hreached hnot
    · intro ending h
      exact ⟨h.start_le hstart, h.le_deadline hstart⟩
  · intro w providers latch step
    exact ⟨drained_of_run w start providers request latch, fun c hc => calls_of_run hstart hc⟩
  · intro g w id hex limit latch step
    have hlimit : start ≤ (requestOf g start id hex limit).deadline := Nat.le_add_right start limit
    have hdrained := drained_of_run w start (g.providers .broadcast)
      (requestOf g start id hex limit) latch
    by_cases hvalid : TxId.isLongEnough id = true ∧ Text.isBlankText hex = false
    · have hstep : step = run w start (g.providers .broadcast) (requestOf g start id hex limit)
          latch := broadcast_of_valid hvalid.1 hvalid.2
      rw [hstep]
      exact ⟨fun _ _ => hdrained, hdrained.le_deadline hlimit, fun c hc => calls_of_run hlimit hc⟩
    · -- an input that is refused takes no time and calls nobody
      have hdone : step.moment.instant = start ∧ step.allCalls = [] := by
        simp only [step, broadcast_eq, if_neg hvalid]
        split <;> exact ⟨rfl, rfl⟩
      rw [hdone.1, hdone.2]
      refine ⟨?_, Nat.le_add_right _ _, ?_⟩
      · intro hid hhex
        exact absurd ⟨hid, hhex⟩ hvalid
      · intro c hc
        cases hc

/-- An explorer that leaves a refusal open, another that is too slow to be searched, and a node
proxy that takes the transaction early. -/
def acceptedEarly : Script where
  explorer := some {
    name := "near"
    published := .error (.rejected "Missing inputs")
    pace := { latency := 3 } }
  secondaryExplorer := some { name := "far", pace := { latency := 100 } }
  nodeProxy := some { name := "node", published := .ok Search.trialId, pace := { latency := 1 } }

/-- The node proxy takes the transaction at 1, which decides the broadcast. It goes on all the same,
until the search that the explorer's refusal has led to is cut short at the limit. -/
theorem drained_after_acceptance :
    let g := Gateway.withoutMiners { nodeProxy := some ⟨"u", some ⟨"k"⟩⟩ } acceptedEarly.connections
    let request := requestOf g 0 Search.trialId "00" 10
    let near : Errand := ⟨.outlet .explorer "near", acceptedEarly.world⟩
    let node : Errand := ⟨.outlet .nodeProxy "node", acceptedEarly.world⟩
    let step := g.broadcast acceptedEarly.world 0 Search.trialId "00" 10 {}
    0 ≤ request.deadline ∧ TakenAt 0 request node 1 ∧ step.result.result = .ok () ∧
      Refused near.outside 0 request near.provider (.rejected "Missing inputs") 3 ∧
      (request.inquiry near.outside 3).calls.map CallTrace.fate = [.answered, .late] ∧
      near.ends 0 request = 10 ∧ step.moment.instant = 10 := by
  intro g request near node step
  have hproviders : g.providers .broadcast = [near.provider, node.provider] := by decide
  have htaken : TakenAt 0 request node 1 := .accepted (d := 1) rfl (by decide)
  have hrefused : Refused near.outside 0 request near.provider (.rejected "Missing inputs") 3 :=
    .answered (d := 3) rfl (by decide)
  have hsearch : (request.inquiry near.outside 3).calls.map CallTrace.fate = [.answered, .late] ∧
      (request.inquiry near.outside 3).finish = 10 := by cbv
  have hresult : step.result.result = .ok () := by
    have hrun : step = run acceptedEarly.world 0 (g.providers .broadcast) request {} :=
      broadcast_of_valid (by decide) (by decide)
    rw [hrun]
    apply (run_decides (by simp [hproviders]) (Nat.zero_le _) (.refl _) {}).1.mpr
    exact ⟨node.provider, by simp [hproviders], htaken.taken⟩
  rcases broadcast_drains_by_deadline 0 request (Nat.zero_le _) with ⟨htimely, _, _, hgateway⟩
  rcases (htimely near).search _ _ hrefused (by decide) with ⟨_, _, _, hends⟩
  rw [hsearch.2] at hends
  rcases hgateway g acceptedEarly.world Search.trialId "00" 10 {} with ⟨hdrained, hlimit, _⟩
  have hall := (hdrained (by decide) (by decide)).all near (by simp [errandsTo, hproviders, near])
  rw [hends] at hall
  exact ⟨Nat.zero_le _, htaken, hresult, hrefused, hsearch.1, hends, Nat.le_antisymm hlimit hall⟩

end TxGateway.Broadcast
