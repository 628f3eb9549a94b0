import Mathlib.Data.List.Forall2
import Mathlib.Data.List.Permutation
import TxGateway.Proofs.Broadcast.FirstAcceptance

namespace TxGateway.Broadcast

/-! # What a failed broadcast tells

The text of a failed broadcast is put together from the reports in the queue. No refusal is missing
from it and none stands there twice, although reports pass through tasks that may crash, a queue
that takes them in any order, and a filter.

* `Errand.survives` holds of a task that does not crash, and `Errand.Blames` says what its entry is:
  the words of the provider's own error, also after a search that failed for another reason.
* `Accounts` is a text with one entry for each task that survives.
* `accounts_of_queue` is about any queue that the reports of these tasks have got into.
* `Delivered` is the invariant that keeps the queue in the order in which tasks end, when reports are
  sent as soon as there are any: `Delivered.step` is the step, `exists_delivered` is about all states.
* `failed_broadcast_accounts_for_all` is about every way that a broadcast may take, and its run.
-/

variable {w : World} {start : Instant} {request : Request} {err : ProviderError} {e : Errand}
  {t : Instant}

/-! ## What a task leaves -/

/-- What counts against a provider is the error of its own submission, not that of a search. -/
theorem words_of_settle {words : String}
    (h : (settle request err w t).value = some (some words)) : words = err.message := by
  cases hwords : Wording.classify err.message with
  | alreadyKnown => simp [settle_of_known hwords] at h
  | failure =>
    rw [settle_of_failure hwords] at h
    simpa using h.symm
  | questionable =>
    rw [settle_of_questionable hwords, Option.map_eq_some_iff] at h
    rcases h with ⟨found, _, hfound⟩
    cases found with
    | none => simpa using hfound.symm
    | some r => simp at hfound

namespace Errand

/-- The task does not crash. -/
def survives (start : Instant) (request : Request) (e : Errand) : Bool :=
  (attempt request e.provider e.outside start).value.isSome

/-- An entry in the provider's name with the words of the error that its submission ended with. -/
def Blames (start : Instant) (request : Request) (e : Errand) (entry : String) : Prop :=
  ∃ err t, Refused e.outside start request e.provider err t ∧
    entry = s!"{e.provider.name}: {err.message}"

section

variable (hstart : start ≤ request.deadline)
include hstart

/-- A task that survives has something to report. -/
theorem isSome_report? : (e.report? start request).isSome = e.survives start request := by
  unfold Errand.report? Broadcast.report? survives
  rcases attempt_value_cases hstart e.provider e.outside with h | ⟨_, h⟩ | ⟨err, t, _, h⟩
  · rw [h]
    rfl
  · rw [h]
    rfl
  · rw [h]
    cases (settle request err e.outside t).value <;> rfl

/-- A task reports an acceptance, or the words of its refusal. -/
theorem report?_cases {r : Report} (h : e.report? start request = some r) :
    r.isAcceptance = true ∨ ∃ entry, r.entry? = some entry ∧ e.Blames start request entry := by
  unfold Errand.report? Broadcast.report? at h
  rcases attempt_value_cases hstart e.provider e.outside with hv | ⟨_, hv⟩ | ⟨err, t, hrefused, hv⟩
  · rw [hv] at h
    cases h
    exact .inl rfl
  · rw [hv] at h
    cases h
  · cases hsettle : (settle request err e.outside t).value with
    | none =>
      rw [hv, hsettle] at h
      cases h
    | some failure =>
      rw [hv, hsettle] at h
      cases h
      cases failure with
      | none => exact .inl rfl
      | some words =>
        right
        refine ⟨_, rfl, err, t, hrefused, ?_⟩
        rw [words_of_settle hsettle]

/-- A task whose submission is refused ends when the error is settled. -/
theorem ends_of_refused (h : Refused e.outside start request e.provider err t) :
    e.ends start request = (settle request err e.outside t).finish := by
  rcases attempt_of_refused hstart h with ⟨fate, hattempt⟩
  rw [ends, hattempt]

end

end Errand

/-! ## The text -/

/-- A text with one entry for each of the tasks that survive, in an order in which these come. -/
def Accounts (start : Instant) (request : Request) (errands order : List Errand) (text : String) :
    Prop :=
  order.Perm (errands.filter (Errand.survives start request)) ∧
    ∃ entries, List.Forall₂ (Errand.Blames start request) order entries ∧
      text = "; ".intercalate entries

theorem verdict_eq_failed {reports : List Report} {text : String}
    (h : verdict reports = .error (.broadcastFailed text)) :
    (∀ r ∈ reports, ¬ r.isAcceptance = true) ∧
      text = "; ".intercalate (reports.filterMap Report.entry?) := by
  unfold verdict at h
  split at h
  · cases h
  · next hnone =>
    refine ⟨fun r hr haccept => hnone (List.any_eq_true.mpr ⟨r, hr, haccept⟩), ?_⟩
    injection h with h
    injection h with h
    exact h.symm

/-- Reports among which there is no acceptance give the entries of the tasks that they come from. -/
theorem forall₂_blames (hstart : start ≤ request.deadline) {order : List Errand}
    (hsurvive : ∀ e ∈ order, e.survives start request = true)
    (h : ∀ r ∈ order.filterMap (Errand.report? start request), ¬ r.isAcceptance = true) :
    List.Forall₂ (Errand.Blames start request) order
      ((order.filterMap (Errand.report? start request)).filterMap Report.entry?) := by
  induction order with
  | nil => exact .nil
  | cons e rest ih =>
    have hsome : (e.report? start request).isSome = true := by
      rw [e.isSome_report? hstart]
      exact hsurvive e List.mem_cons_self
    rcases Option.isSome_iff_exists.mp hsome with ⟨r, hreport⟩
    rw [List.filterMap_cons_some hreport] at h ⊢
    rcases e.report?_cases hstart hreport with haccept | ⟨entry, hentry, hblames⟩
    · exact absurd haccept (h r List.mem_cons_self)
    · rw [List.filterMap_cons_some hentry]
      have hrest := ih (fun q hq => hsurvive q (List.mem_cons_of_mem e hq))
        (fun q hq => h q (List.mem_cons_of_mem r hq))
      exact .cons hblames hrest

/-- Whatever the order in which the reports of the tasks that survive get into the queue, the text
of a failed broadcast has an entry for each of them, in that order. -/
theorem accounts_of_queue (hstart : start ≤ request.deadline) {order errands : List Errand}
    {text : String} (horder : order.Perm (errands.filter (Errand.survives start request)))
    (h : verdict (order.filterMap (Errand.report? start request)) =
      .error (.broadcastFailed text)) :
    Accounts start request errands order text := by
  have hsurvive : ∀ e ∈ order, e.survives start request = true := by
    intro e he
    exact (List.mem_filter.mp (horder.mem_iff.mp he)).2
  rcases verdict_eq_failed h with ⟨hnone, htext⟩
  exact ⟨horder, _, forall₂_blames hstart hsurvive hnone, htext⟩

/-- The reports of the tasks that survive are all there are. -/
theorem filterMap_report?_survivors (hstart : start ≤ request.deadline) (order : List Errand) :
    (order.filter (Errand.survives start request)).filterMap (Errand.report? start request) =
      order.filterMap (Errand.report? start request) := by
  rw [List.filterMap_filter]
  apply List.filterMap_congr
  intro e _
  have hsome := e.isSome_report? hstart
  cases hreport : e.report? start request with
  | none => simp
  | some r =>
    rw [hreport] at hsome
    simp [← hsome]

/-! ## The queue -/

variable {errands sent pending : List Errand} {s s' : Underway}

theorem Step.queue_prefix (h : Step start request s s') : s.queue <+: s'.queue := by
  cases h with
  | pass hle hdue => exact List.prefix_refl _
  | finish hrunning hdue => exact List.prefix_refl _
  | send hunsent => exact List.prefix_append _ _

/-- What is in the queue stays there, before all that comes later. -/
theorem Steps.queue_prefix (h : Steps start request s s') : s.queue <+: s'.queue := by
  induction h with
  | refl => exact List.prefix_refl _
  | tail _ hstep ih => exact ih.trans hstep.queue_prefix

/-- When nothing more is to come, each task has left its report in the queue or has crashed. -/
theorem exists_order_of_over (hstart : start ≤ request.deadline)
    (h : Lawful start request errands s) (hover : s.Over) :
    ∃ order : List Errand, order.Perm (errands.filter (Errand.survives start request)) ∧
      order.filterMap (Errand.report? start request) = s.queue := by
  have htasks := h.tasks
  have hreports := h.reports
  rw [hover.1, List.append_nil] at htasks
  rw [hover.2, List.append_nil] at hreports
  rcases Scope.exists_perm_filterMap_eq hreports with ⟨order, horder, hqueue⟩
  refine ⟨_, (horder.trans htasks).filter _, ?_⟩
  rw [filterMap_report?_survivors hstart, hqueue]

/-! ## The order of the queue -/

/-- The tasks that have ended and survive, apart in those whose reports are in the queue and those
whose reports are to get there. The latter have only just ended. -/
structure Delivered (start : Instant) (request : Request) (s : Underway)
    (sent pending : List Errand) : Prop where
  tasks : (sent ++ pending).Perm (s.ended.filter (Errand.survives start request))
  queue : s.queue = sent.filterMap (Errand.report? start request)
  unsent : s.unsent = pending.filterMap (Errand.report? start request)
  order : sent.Pairwise fun a b => a.ends start request ≤ b.ends start request
  past : ∀ e ∈ sent, e.ends start request ≤ s.now
  fresh : ∀ e ∈ pending, e.ends start request = s.now

theorem delivered_begin : Delivered start request (.begin start errands) [] [] where
  tasks := .refl _
  queue := rfl
  unsent := rfl
  order := .nil
  past := fun _ h => nomatch h
  fresh := fun _ h => nomatch h

namespace Delivered

theorem pending_eq_nil (h : Delivered start request s sent pending)
    (hstart : start ≤ request.deadline) (hunsent : s.unsent = []) : pending = [] := by
  rw [h.unsent, List.filterMap_eq_nil_iff] at hunsent
  apply List.eq_nil_iff_forall_not_mem.mpr
  intro e he
  have hmem := h.tasks.mem_iff.mp (List.mem_append_right sent he)
  have hsome := e.isSome_report? hstart
  rw [hunsent e he, (List.mem_filter.mp hmem).2] at hsome
  cases hsome

theorem step (h : Delivered start request s sent pending) (hstart : start ≤ request.deadline)
    (hstep : Step start request s s') (hprompt : s.unsent = [] ∨ s'.now = s.now) :
    ∃ sent' pending', Delivered start request s' sent' pending' := by
  cases hstep with
  | @pass t hle hdue =>
    refine ⟨sent, pending, h.tasks, h.queue, h.unsent, h.order, ?_, ?_⟩
    · intro e he
      exact (h.past e he).trans hle
    · rcases hprompt with hunsent | hnow
      · rw [h.pending_eq_nil hstart hunsent]
        exact fun e he => nomatch he
      · intro e he
        exact (h.fresh e he).trans hnow.symm
  | @finish before after e hrunning hdue =>
    have hsome := e.isSome_report? hstart
    cases hreport : e.report? start request with
    | none =>
      rw [hreport] at hsome
      refine ⟨sent, pending, ?_, h.queue, ?_, h.order, h.past, h.fresh⟩
      · rw [List.filter_append, List.filter_cons_of_neg (by simp [← hsome]), List.filter_nil,
          List.append_nil]
        exact h.tasks
      · simpa using h.unsent
    | some r =>
      rw [hreport] at hsome
      refine ⟨sent, pending ++ [e], ?_, h.queue, ?_, h.order, h.past, ?_⟩
      · rw [List.filter_append, List.filter_cons_of_pos (by simp [← hsome]), List.filter_nil,
          ← List.append_assoc]
        exact h.tasks.append_right [e]
      · rw [List.filterMap_append, List.filterMap_cons_some hreport, h.unsent]
        rfl
      · exact List.forall_mem_append.mpr ⟨h.fresh, by simp [hdue]⟩
  | @send before after r hunsent =>
    -- the report is that of some task among those whose reports are to be sent
    have hpending := h.unsent
    rw [hunsent, eq_comm, List.filterMap_eq_append_iff] at hpending
    rcases hpending with ⟨front, back, hsplit, hfront, hback⟩
    rcases List.filterMap_eq_cons_iff.mp hback with ⟨lost, e, rest, hback', hlost, he, hrest⟩
    have htasks := h.tasks
    have hfresh := h.fresh
    rw [hsplit, hback', ← List.append_assoc front] at htasks hfresh
    have hends : e.ends start request = s.now := hfresh e (by simp)
    refine ⟨sent ++ [e], front ++ lost ++ rest, perm_of_moved htasks, ?_, ?_, ?_, ?_, ?_⟩
    · rw [List.filterMap_append, List.filterMap_cons_some he, h.queue]
      rfl
    · rw [List.filterMap_append, List.filterMap_append, hfront, hrest,
        List.filterMap_eq_nil_iff.mpr hlost, List.append_nil]
    · refine List.pairwise_append.mpr ⟨h.order, List.pairwise_singleton _ _, ?_⟩
      intro a ha b hb
      rw [List.mem_singleton.mp hb, hends]
      exact h.past a ha
    · exact List.forall_mem_append.mpr ⟨h.past, by simp [hends]⟩
    · intro b hb
      apply hfresh b
      rcases List.mem_append.mp hb with hb | hb
      · exact List.mem_append_left _ hb
      · exact List.mem_append_right _ (List.mem_cons_of_mem e hb)

end Delivered

theorem exists_delivered (hstart : start ≤ request.deadline)
    (h : PromptSteps start request (.begin start errands) s) :
    ∃ sent pending, Delivered start request s sent pending := by
  induction h with
  | refl => exact ⟨[], [], delivered_begin⟩
  | tail _ hstep ih =>
    rcases ih with ⟨sent, pending, hdelivered⟩
    exact hdelivered.step hstart hstep.1 hstep.2

/-- If reports are sent as soon as tasks end, the text names the tasks in the order in which they
end. -/
theorem prompt_accounts (hstart : start ≤ request.deadline)
    (h : PromptSteps start request (.begin start errands) s) (hover : s.Over) {text : String}
    (htext : verdict s.queue = .error (.broadcastFailed text)) :
    ∃ order, Accounts start request errands order text ∧
      order.Pairwise fun a b => a.ends start request ≤ b.ends start request := by
  rcases exists_delivered hstart h with ⟨sent, pending, hdelivered⟩
  have hended := (lawful_of_reached h.steps).tasks
  rw [hover.1, List.append_nil] at hended
  have htasks := hdelivered.tasks
  rw [hdelivered.pending_eq_nil hstart hover.2, List.append_nil] at htasks
  rw [hdelivered.queue] at htext
  exact ⟨sent, accounts_of_queue hstart (htasks.trans (hended.filter _)) htext, hdelivered.order⟩

/-- The latch has no part in the result. -/
theorem run_result_eq (w : World) (start : Instant) (providers : List Provider) (request : Request)
    (latch : Latch) : (run w start providers request latch).result.result =
      (run w start providers request {}).result.result := by
  cases providers <;> rfl

theorem run_accounts (hstart : start ≤ request.deadline) {providers : List Provider}
    {latch : Latch} {text : String}
    (h : (run w start providers request latch).result.result = .error (.broadcastFailed text)) :
    ∃ order, Accounts start request (errandsTo w providers) order text ∧
      order.Pairwise fun a b => a.ends start request ≤ b.ends start request := by
  by_cases hproviders : providers = []
  · subst hproviders
    cases h
  · rcases exists_prompt_of_run hproviders with ⟨s, hsteps, hover, _, hverdict, _⟩
    rw [run_result_eq, ← hverdict] at h
    exact prompt_accounts hstart hsteps hover h

/-- **No failure is lost.** On every way that a broadcast may take, whatever its tasks meet outside
and in whatever order they end, the text of a failed one has exactly one entry for each task that
has not crashed, in the order in which their reports have come in. If reports are sent as soon as
tasks end, as in the run of a broadcast and in the broadcast of a gateway, this is the order in
which the tasks have ended. -/
theorem failed_broadcast_accounts_for_all :
    (∀ (start : Instant) (request : Request), start ≤ request.deadline →
      (∀ (errands : List Errand) (s' : Underway),
        Steps start request (.begin start errands) s' → s'.Over →
        ∀ text, verdict s'.queue = .error (.broadcastFailed text) →
        ∃ order, Accounts start request errands order text ∧
          ∀ s, Steps start request s s' →
            ∃ done, done <+: order ∧
              s.queue = done.filterMap (Errand.report? start request)) ∧
      (∀ (errands : List Errand) (s : Underway),
        PromptSteps start request (.begin start errands) s → s.Over →
        ∀ text, verdict s.queue = .error (.broadcastFailed text) →
        ∃ order, Accounts start request errands order text ∧
          order.Pairwise fun a b => a.ends start request ≤ b.ends start request) ∧
      ∀ (w : World) (providers : List Provider) (latch : Latch) (text : String),
        (run w start providers request latch).result.result = .error (.broadcastFailed text) →
        ∃ order, Accounts start request (errandsTo w providers) order text ∧
          order.Pairwise fun a b => a.ends start request ≤ b.ends start request) ∧
    ∀ (g : Gateway) (w : World) (start : Instant) (id hex : String) (limit : Nat) (latch : Latch)
      (text : String),
      (g.broadcast w start id hex limit latch).result.result = .error (.broadcastFailed text) →
      let request := requestOf g start id hex limit
      ∃ order, Accounts start request (errandsTo w (g.providers .broadcast)) order text ∧
        order.Pairwise fun a b => a.ends start request ≤ b.ends start request := by
  refine ⟨?_, ?_⟩
  · intro start request hstart
    refine ⟨?_, ?_, ?_⟩
    · intro errands s' hsteps hover text htext
      rcases exists_order_of_over hstart (lawful_of_reached hsteps) hover with
        ⟨order, horder, hqueue⟩
      rw [← hqueue] at htext
      refine ⟨order, accounts_of_queue hstart horder htext, ?_⟩
      intro s hlater
      have hprefix := hlater.queue_prefix
      rw [← hqueue] at hprefix
      exact List.prefix_filterMap_iff.mp hprefix
    · intro errands s hsteps hover text htext
      exact prompt_accounts hstart hsteps hover htext
    · intro w providers latch text h
      exact run_accounts hstart h
  · intro g w start id hex limit latch text h request
    have hstart : start ≤ request.deadline := Nat.le_add_right start limit
    rw [broadcast_eq] at h
    split at h
    · exact run_accounts hstart h
    · split at h <;> cases h

/-- An explorer that refuses a transaction with questionable words and does not know it, and a node
proxy that refuses it later. -/
def refusedByAll : Script where
  explorer := some {
    name := "near"
    published := .error (.rejected "Missing inputs")
    pace := { latency := 3 } }
  nodeProxy := some {
    name := "node"
    published := .error (.rejected "bad-txns")
    pace := { latency := 4 } }

/-- The explorer's refusal counts only after a search that failed, so it stands behind the other. -/
theorem failure_names_both :
    let g := Gateway.withoutMiners { nodeProxy := some ⟨"u", some ⟨"k"⟩⟩ } refusedByAll.connections
    let request := requestOf g 0 Search.trialId "00" 20
    let errands := errandsTo refusedByAll.world (g.providers .broadcast)
    let text := "node: Rejected: bad-txns; near: Rejected: Missing inputs"
    let inOrder := fun order : List Errand =>
      order.Pairwise fun a b => a.ends 0 request ≤ b.ends 0 request
    (∃ order, Accounts 0 request errands order text ∧ inOrder order) ∧
    ∃ s, PromptSteps 0 request (.begin 0 errands) s ∧ s.Over ∧
      verdict s.queue = .error (.broadcastFailed text) ∧
      (∃ order, Accounts 0 request errands order text) ∧
      ∃ order, Accounts 0 request errands order text ∧ inOrder order := by
  intro g request errands text inOrder
  let near : Errand := ⟨.outlet .explorer "near", refusedByAll.world⟩
  let node : Errand := ⟨.outlet .nodeProxy "node", refusedByAll.world⟩
  have hproviders : g.providers .broadcast = [near.provider, node.provider] := by decide
  have hnear : Refused near.outside 0 request near.provider (.rejected "Missing inputs") 3 :=
    .answered (d := 3) rfl (by decide)
  have hnode : Refused node.outside 0 request node.provider (.rejected "bad-txns") 4 :=
    .answered (d := 4) rfl (by decide)
  have hquestionable : Wording.classify (ProviderError.rejected "Missing inputs").message =
      .questionable := by decide
  have hfailure : Wording.classify (ProviderError.rejected "bad-txns").message = .failure := by
    decide
  have hinquiry : (request.inquiry near.outside 3).value = some none ∧
      (request.inquiry near.outside 3).finish = 10 := by cbv
  have hnearEnds : near.ends 0 request = 10 := by
    rw [Errand.ends_of_refused (Nat.zero_le _) hnear, settle_of_questionable hquestionable,
      hinquiry.2]
  have hnodeEnds : node.ends 0 request = 4 := by
    rw [Errand.ends_of_refused (Nat.zero_le _) hnode, settle_of_failure hfailure]
  have hnearReport : near.report? 0 request = some ⟨"near", some "Rejected: Missing inputs"⟩ := by
    rw [Errand.report?, report?_of_refused (Nat.zero_le _) hnear,
      settle_of_questionable hquestionable, hinquiry.1]
    rfl
  have hnodeReport : node.report? 0 request = some ⟨"node", some "Rejected: bad-txns"⟩ := by
    rw [Errand.report?, report?_of_refused (Nat.zero_le _) hnode, settle_of_failure hfailure]
    rfl
  -- the node proxy's task is the first to end, so its report comes in first
  have hrun : (g.broadcast refusedByAll.world 0 Search.trialId "00" 20 {}).result.result =
      .error (.broadcastFailed text) := by
    rcases exists_order_of_run refusedByAll.world 0 request (g.providers .broadcast) with
      ⟨order, horder, hsorted, hreports, _⟩
    have horder' : order = [node, near] := by
      rw [errandsTo, hproviders] at horder
      rcases List.perm_pair.mp horder with h | h
      · rw [h] at hsorted
        simp [near, node, hnearEnds, hnodeEnds] at hsorted
      · exact h
    rw [broadcast_eq, if_pos (by decide), run_of_ne_nil (by simp [hproviders])]
    show verdict (Scope.arrivals 0 _ |>.map Arrival.value) = _
    rw [hreports, horder', List.filterMap_cons_some hnodeReport,
      List.filterMap_cons_some hnearReport]
    rfl
  rcases failed_broadcast_accounts_for_all with ⟨hevery, hgateway⟩
  rcases hevery 0 request (Nat.zero_le _) with ⟨hways, hprompt, _⟩
  refine ⟨hgateway g refusedByAll.world 0 Search.trialId "00" 20 {} text hrun, ?_⟩
  have hne : g.providers .broadcast ≠ [] := by simp [hproviders]
  rcases exists_prompt_of_run hne with ⟨s, hsteps, hover, _, hverdict, _⟩
  rw [broadcast_eq, if_pos (by decide)] at hrun
  rw [hrun] at hverdict
  rcases hways errands s hsteps.steps hover text hverdict with ⟨order, haccounts, _⟩
  have hordered := hprompt errands s hsteps hover text hverdict
  exact ⟨s, hsteps, hover, hverdict, ⟨order, haccounts⟩, hordered⟩

end TxGateway.Broadcast
