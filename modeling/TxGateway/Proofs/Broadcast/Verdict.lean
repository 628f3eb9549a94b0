import TxGateway.Proofs.Arrivals
import TxGateway.Proofs.Contacts
import TxGateway.Proofs.Search.Walk

namespace TxGateway.Broadcast

/-! # The verdict on a broadcast

What one provider's task comes to depends on how the submission ends, on the words of its error and,
if these leave it open, on a search. `Taken` says when the task ends in acceptance. The verdict asks
for one such task, whatever the order in which the tasks end.

* `attempt_of_accepted`, `attempt_of_refused` and `attempt_of_crash` are the courses of a task.
* `isAcceptance_iff_taken` compares what a task reports with `Taken`.
* `broadcast_decided_by_taken` is the verdict over all providers.
-/

open Activity

variable {w : World} {start : Instant} {request : Request} {p : Provider} {e : ProviderError}
  {t : Instant}

/-! ## How a submission ends -/

/-- The response to the submission of a request. -/
def Request.submission (request : Request) (p : Provider) (w : World) (start : Instant) :
    Response Unit :=
  p.submission request.id request.hex w start

theorem Request.submit_eq (request : Request) (p : Provider) (w : World) (start : Instant) :
    p.submit request.id request.hex request.deadline w start =
      (request.submission p w start).course (p.submitCall request.hex) (request.deadline - start)
        start :=
  p.submit_eq request.id request.hex request.deadline w start

/-- The submission ends at `t` with an error: the provider's, if it comes in time, and else that no
answer has come by the deadline. -/
inductive Refused (w : World) (start : Instant) (request : Request) (p : Provider) :
    ProviderError → Instant → Prop
  | answered {e : ProviderError} {d : Nat}
      (h : request.submission p w start = .answer d (.error e))
      (hd : start + d ≤ request.deadline) : Refused w start request p e (start + d)
  | late (h : ((request.deadline - start : Nat) : ℕ∞) < (request.submission p w start).delay) :
      Refused w start request p .late request.deadline

/-- A submission is refused in one way only. -/
theorem Refused.unique {e' : ProviderError} {t' : Instant} (h : Refused w start request p e t)
    (h' : Refused w start request p e' t') : e' = e ∧ t' = t := by
  cases h with
  | answered h hd =>
    cases h' with
    | answered h' hd' =>
      rw [h] at h'
      cases h'
      exact ⟨rfl, rfl⟩
    | late h' =>
      rw [h] at h'
      have hlt := Nat.cast_lt.mp h'
      lia
  | late h =>
    cases h' with
    | answered h' hd' =>
      rw [h'] at h
      have hlt := Nat.cast_lt.mp h
      lia
    | late h' => exact ⟨rfl, rfl⟩

theorem Refused.bounds (hstart : start ≤ request.deadline) (h : Refused w start request p e t) :
    start ≤ t ∧ t ≤ request.deadline := by
  cases h with
  | answered h hd => exact ⟨Nat.le_add_right _ _, hd⟩
  | late h => exact ⟨hstart, Nat.le_refl _⟩

/-- The search for the transaction that a questionable refusal at `t` leads to. -/
def Request.inquiry (request : Request) (w : World) (t : Instant) : Timeline (Option TxRecord) :=
  Search.inOrder request.id .mempool (min request.deadline (t + request.fallbackLimit))
    request.fallback w t

/-- The provider's task ends in acceptance. -/
inductive Taken (w : World) (start : Instant) (request : Request) (p : Provider) : Prop
  | accepted {d : Nat} (h : request.submission p w start = .answer d (.ok ()))
      (hd : start + d ≤ request.deadline)
  | known {e : ProviderError} {t : Instant} (h : Refused w start request p e t)
      (hwords : Wording.classify e.message = .alreadyKnown)
  | found {e : ProviderError} {t : Instant} {r : TxRecord} (h : Refused w start request p e t)
      (hwords : Wording.classify e.message = .questionable)
      (hfound : (request.inquiry w t).value = some (some r))

theorem submission_cases (w : World) (start : Instant) (request : Request) (p : Provider) :
    (∃ d, request.submission p w start = .answer d (.ok ()) ∧ d ≤ request.deadline - start) ∨
    (∃ d e, request.submission p w start = .answer d (.error e) ∧ d ≤ request.deadline - start) ∨
    (∃ d, request.submission p w start = .crash d ∧ d ≤ request.deadline - start) ∨
    ((request.deadline - start : Nat) : ℕ∞) < (request.submission p w start).delay := by
  cases h : request.submission p w start with
  | answer d reply =>
    by_cases hd : d ≤ request.deadline - start
    · cases reply with
      | ok u => exact .inl ⟨d, rfl, hd⟩
      | error e => exact .inr (.inl ⟨d, e, rfl, hd⟩)
    · exact .inr (.inr (.inr (Nat.cast_lt.mpr (Nat.lt_of_not_le hd))))
  | crash d =>
    by_cases hd : d ≤ request.deadline - start
    · exact .inr (.inr (.inl ⟨d, rfl, hd⟩))
    · exact .inr (.inr (.inr (Nat.cast_lt.mpr (Nat.lt_of_not_le hd))))
  | silence => exact .inr (.inr (.inr (ENat.natCast_lt_top _)))

/-! ## The course of a task -/

theorem settle_of_known (h : Wording.classify e.message = .alreadyKnown) :
    settle request e w t = ⟨[], t, some none⟩ := by
  simp only [settle, h]
  rfl

theorem settle_of_failure (h : Wording.classify e.message = .failure) :
    settle request e w t = ⟨[], t, some (some e.message)⟩ := by
  simp only [settle, h]
  rfl

theorem settle_of_questionable (h : Wording.classify e.message = .questionable) :
    settle request e w t =
      ⟨(request.inquiry w t).calls, (request.inquiry w t).finish,
        (request.inquiry w t).value.map fun found => if found.isSome then none
          else some e.message⟩ := by
  have hsettle : settle request e w t =
      (Search.inOrder request.id .mempool (min request.deadline (t + request.fallbackLimit))
        request.fallback >>= fun found =>
          pure (if found.isSome then none else some e.message)) w t := by
    simp only [settle, h]
    rw [bind_now]
    refine congrFun (congrFun ?_ w) t
    congr 1
    funext found
    cases found with
    | none => rfl
    | some r => rfl
  exact hsettle.trans (bind_pure_apply _)

theorem attempt_of_accepted {d : Nat} (h : request.submission p w start = .answer d (.ok ()))
    (hd : d ≤ request.deadline - start) : attempt request p w start =
      ⟨[⟨p.submitCall request.hex, start, start + d, .answered⟩], start + d,
        some (some ⟨p.name, none⟩)⟩ := by
  have hcourse : p.submit request.id request.hex request.deadline w start =
      ⟨[⟨p.submitCall request.hex, start, start + d, .answered⟩], start + d,
        some (some (.ok ()))⟩ := by
    rw [request.submit_eq, h, Response.course_answer_of_le hd]
  unfold attempt
  rw [bind_of_some (by rw [hcourse]), hcourse]
  rfl

theorem attempt_of_crash {d : Nat} (h : request.submission p w start = .crash d)
    (hd : d ≤ request.deadline - start) : attempt request p w start =
      ⟨[⟨p.submitCall request.hex, start, start + d, .crashed⟩], start + d, none⟩ := by
  have hcourse : p.submit request.id request.hex request.deadline w start =
      ⟨[⟨p.submitCall request.hex, start, start + d, .crashed⟩], start + d, none⟩ := by
    rw [request.submit_eq, h, Response.course_crash_of_le hd]
  unfold attempt
  rw [bind_of_none (by rw [hcourse]), hcourse]

/-- A task whose submission is refused settles the error, and reports what comes out of that. -/
theorem attempt_of_refused (hstart : start ≤ request.deadline)
    (h : Refused w start request p e t) :
    ∃ fate, attempt request p w start =
      ⟨⟨p.submitCall request.hex, start, t, fate⟩ :: (settle request e w t).calls,
        (settle request e w t).finish,
        (settle request e w t).value.map fun failure => some ⟨p.name, failure⟩⟩ := by
  -- an error in time and no answer by the deadline leave the same to settle
  obtain ⟨fate, reply, hcourse, hreply⟩ : ∃ fate reply,
      p.submit request.id request.hex request.deadline w start =
        ⟨[⟨p.submitCall request.hex, start, t, fate⟩], t, some reply⟩ ∧
      reply.getD (.error .late) = .error e := by
    cases h with
    | answered h hd =>
      refine ⟨.answered, some (.error e), ?_, rfl⟩
      rw [request.submit_eq, h, Response.course_answer_of_le (by lia)]
    | late h =>
      refine ⟨.late, none, ?_, rfl⟩
      have hend : start + (request.deadline - start) = request.deadline := by lia
      rw [request.submit_eq, Response.course_of_lt h, Response.dropped, hend]
  refine ⟨fate, ?_⟩
  unfold attempt
  rw [bind_of_some (by rw [hcourse]), hcourse]
  simp only [hreply]
  rw [bind_pure_apply]
  rfl

/-- A submission is accepted, or crashes, or is refused, and the task ends accordingly. -/
theorem attempt_value_cases (hstart : start ≤ request.deadline) (p : Provider) (w : World) :
    (attempt request p w start).value = some (some ⟨p.name, none⟩) ∨
    ((∃ d, request.submission p w start = .crash d ∧ start + d ≤ request.deadline) ∧
      (attempt request p w start).value = none) ∨
    ∃ err t, Refused w start request p err t ∧
      (attempt request p w start).value =
        (settle request err w t).value.map fun failure => some ⟨p.name, failure⟩ := by
  have hrefused : ∀ {err t}, Refused w start request p err t →
      (attempt request p w start).value =
        (settle request err w t).value.map fun failure => some ⟨p.name, failure⟩ := by
    intro err t h
    rcases attempt_of_refused hstart h with ⟨fate, hattempt⟩
    rw [hattempt]
  rcases submission_cases w start request p with ⟨d, h, hd⟩ | ⟨d, err, h, hd⟩ | ⟨d, h, hd⟩ | h
  · left
    rw [attempt_of_accepted h hd]
  · have h' : Refused w start request p err (start + d) := .answered h (by lia)
    exact .inr (.inr ⟨err, _, h', hrefused h'⟩)
  · right
    left
    refine ⟨⟨d, h, by lia⟩, ?_⟩
    rw [attempt_of_crash h hd]
  · have h' : Refused w start request p .late request.deadline := .late h
    exact .inr (.inr ⟨.late, _, h', hrefused h'⟩)

/-! ## Acceptance -/

/-- The report of a task that does not crash. -/
def report? (w : World) (start : Instant) (request : Request) (p : Provider) : Option Report :=
  (attempt request p w start).value.join

theorem report?_of_refused (hstart : start ≤ request.deadline)
    (h : Refused w start request p e t) :
    report? w start request p =
      (settle request e w t).value.map fun failure => ⟨p.name, failure⟩ := by
  obtain ⟨fate, hattempt⟩ := attempt_of_refused hstart h
  rw [report?, hattempt]
  cases (settle request e w t).value <;> rfl

/-- A refusal turns out to be none if the words say so, or if they are questionable and the search
finds the transaction. -/
theorem settle_value_eq_none_iff :
    (settle request e w t).value = some none ↔
      Wording.classify e.message = .alreadyKnown ∨
        (Wording.classify e.message = .questionable ∧
          ∃ r, (request.inquiry w t).value = some (some r)) := by
  cases h : Wording.classify e.message with
  | alreadyKnown => simp [settle_of_known h]
  | failure => simp [settle_of_failure h]
  | questionable =>
    rw [settle_of_questionable h]
    cases (request.inquiry w t).value with
    | none => simp
    | some found => cases found <;> simp

/-- A task reports an acceptance if and only if the provider takes the transaction. -/
theorem isAcceptance_iff_taken (hstart : start ≤ request.deadline) :
    (∃ r, report? w start request p = some r ∧ r.isAcceptance = true) ↔
      Taken w start request p := by
  have hrefused : ∀ {e t}, Refused w start request p e t →
      ((∃ r, report? w start request p = some r ∧ r.isAcceptance = true) ↔
        (settle request e w t).value = some none) := by
    intro e t h
    rw [report?_of_refused hstart h]
    cases (settle request e w t).value with
    | none => simp
    | some failure => cases failure <;> simp [Report.isAcceptance]
  constructor
  · -- a task that reports was not lost, so its submission was accepted or refused
    rintro ⟨r, hr, haccept⟩
    have hof : ∀ {e t}, Refused w start request p e t → Taken w start request p := by
      intro e t h
      rcases settle_value_eq_none_iff.mp ((hrefused h).mp ⟨r, hr, haccept⟩) with
        hwords | ⟨hwords, x, hfound⟩
      · exact .known h hwords
      · exact .found h hwords hfound
    rcases submission_cases w start request p with
      ⟨d, h, hd⟩ | ⟨d, e, h, hd⟩ | ⟨d, h, hd⟩ | h
    · exact .accepted h (by lia)
    · exact hof (.answered h (by lia))
    · rw [report?, attempt_of_crash h hd] at hr
      cases hr
    · exact hof (.late h)
  · intro h
    cases h with
    | accepted h hd =>
      refine ⟨⟨p.name, none⟩, ?_, rfl⟩
      rw [report?, attempt_of_accepted h (by lia)]
      rfl
    | known h hwords => exact (hrefused h).mpr (settle_value_eq_none_iff.mpr (.inl hwords))
    | found h hwords hfound =>
      exact (hrefused h).mpr (settle_value_eq_none_iff.mpr (.inr ⟨hwords, _, hfound⟩))

/-! ## The verdict -/

theorem wellTimed_attempts (w : World) (start : Instant) (request : Request)
    (providers : List Provider) :
    Scope.WellTimed start (providers.map fun p => attempt request p w start) := by
  intro t ht
  obtain ⟨p, -, rfl⟩ := List.mem_map.mp ht
  exact (makes_attempt request p).gapless w start

/-- The result is success if and only if a condition holds, and else a failed broadcast. -/
def Decides (result : Except Failure Unit) (P : Prop) : Prop :=
  (result = .ok () ↔ P) ∧ (¬ P → ∃ entries, result = .error (.broadcastFailed entries))

theorem verdict_decides (reports : List Report) :
    Decides (verdict reports) (∃ r ∈ reports, r.isAcceptance = true) := by
  have hany : reports.any Report.isAcceptance = true ↔ ∃ r ∈ reports, r.isAcceptance = true :=
    List.any_eq_true
  unfold verdict
  by_cases h : reports.any Report.isAcceptance = true
  · rw [if_pos h]
    exact ⟨⟨fun _ => hany.mp h, fun _ => rfl⟩, fun hnot => absurd (hany.mp h) hnot⟩
  · rw [if_neg h]
    refine ⟨⟨fun heq => ?_, fun hex => absurd (hany.mpr hex) h⟩, fun _ => ⟨_, rfl⟩⟩
    cases heq

/-- Whatever the order in which the reports of the tasks come in, one provider that takes the
transaction decides. -/
theorem verdict_decides_taken {providers : List Provider} {outside : Provider → World}
    {reports : List Report} (hstart : start ≤ request.deadline)
    (hreports : reports.Perm (providers.filterMap fun p => report? (outside p) start request p)) :
    Decides (verdict reports) (∃ p ∈ providers, Taken (outside p) start request p) := by
  have hiff : (∃ r ∈ reports, r.isAcceptance = true) ↔
      ∃ p ∈ providers, Taken (outside p) start request p := by
    constructor
    · rintro ⟨r, hr, haccept⟩
      obtain ⟨p, hp, hpr⟩ := List.mem_filterMap.mp (hreports.mem_iff.mp hr)
      exact ⟨p, hp, (isAcceptance_iff_taken hstart).mp ⟨r, hpr, haccept⟩⟩
    · rintro ⟨p, hp, htaken⟩
      obtain ⟨r, hpr, haccept⟩ := (isAcceptance_iff_taken hstart).mpr htaken
      exact ⟨r, hreports.mem_iff.mpr (List.mem_filterMap.mpr ⟨p, hp, hpr⟩), haccept⟩
  rw [← hiff]
  exact verdict_decides reports

theorem run_of_ne_nil {providers : List Provider} (h : providers ≠ []) (latch : Latch) :
    run w start providers request latch =
      (Scope.drain start (providers.map fun p => attempt request p w start)).map fun reports =>
        ⟨verdict (reports.map Arrival.value), latch.recordAll (acceptances reports)⟩ := by
  cases providers with
  | nil => exact absurd rfl h
  | cons p rest => rfl

theorem arrivals_attempts_perm (w : World) (start : Instant) (request : Request)
    (providers : List Provider) :
    ((Scope.arrivals start (providers.map fun p => attempt request p w start)).map
      Arrival.value).Perm (providers.filterMap (report? w start request)) := by
  have hperm := Scope.arrivals_values_perm (wellTimed_attempts w start request providers)
  rw [List.filterMap_map] at hperm
  exact hperm

theorem run_decides {order providers : List Provider} (hproviders : providers ≠ [])
    (hstart : start ≤ request.deadline) (horder : order.Perm providers) (latch : Latch) :
    Decides (run w start order request latch).result.result
      (∃ p ∈ providers, Taken w start request p) := by
  have hne : order ≠ [] := fun hnil => hproviders (List.perm_nil.mp (hnil ▸ horder).symm)
  rw [run_of_ne_nil hne]
  -- the reports are those of the tasks in some order, and the tasks those of the providers
  have hreports := (arrivals_attempts_perm w start request order).trans (horder.filterMap _)
  exact verdict_decides_taken hstart hreports

/-- What a gateway hands to the providers of a broadcast. A search goes to the providers that the
same settings list for queries. -/
def requestOf (g : Gateway) (start : Instant) (id hex : String) (limit : Nat) : Request where
  id := id
  hex := hex
  deadline := start + limit
  fallback := g.providers .query
  fallbackLimit := g.settings.limit .query

/-- A broadcast succeeds if and only if some provider takes the transaction, and fails otherwise.
Neither the order of the providers nor the order in which their tasks end has a part in it, not even
if each task sees an outside of its own; and a gateway's broadcast is such a one. -/
theorem broadcast_decided_by_taken (w : World) (start : Instant) (providers : List Provider)
    (request : Request) (latch : Latch) (hproviders : providers ≠ [])
    (hstart : start ≤ request.deadline) :
    (∀ order : List Provider, order.Perm providers →
      Decides (run w start order request latch).result.result
        (∃ p ∈ providers, Taken w start request p)) ∧
    (∀ (outside : Provider → World) (reports : List Report),
      reports.Perm (providers.filterMap fun p => report? (outside p) start request p) →
      Decides (verdict reports) (∃ p ∈ providers, Taken (outside p) start request p)) ∧
    (∀ (g : Gateway) (limit : Nat), TxId.isLongEnough request.id = true →
      Text.isBlankText request.hex = false → g.providers .broadcast = providers →
      requestOf g start request.id request.hex limit = request →
      Decides (g.broadcast w start request.id request.hex limit latch).result.result
        (∃ p ∈ providers, Taken w start request p)) := by
  refine ⟨?_, ?_, ?_⟩
  · intro order horder
    exact run_decides hproviders hstart horder latch
  · intro outside reports hreports
    exact verdict_decides_taken hstart hreports
  · intro g limit hid hhex hg hrequest
    have hrun : g.broadcast w start request.id request.hex limit latch =
        run w start (g.providers .broadcast) (requestOf g start request.id request.hex limit)
          latch := by
      simp [Gateway.broadcast, hid, hhex, requestOf]
    rw [hrun, hg, hrequest]
    exact run_decides hproviders hstart (.refl _) latch

/-- The only provider refuses the transaction with questionable words, and a search finds it at the
very deadline. -/
theorem broadcast_decided_by_search :
    let g := Gateway.withoutMiners {} Search.twoExplorers.connections
    let request := requestOf g 0 Search.trialId "00" 10
    g.providers .broadcast ≠ [] ∧ 0 ≤ request.deadline ∧
      (g.broadcast Search.twoExplorers.world 0 request.id request.hex 10 {}).result.result =
        .ok () := by
  intro g request
  have hproviders : g.providers .broadcast = [.outlet .explorer "near"] := rfl
  have hne : g.providers .broadcast ≠ [] := by simp [hproviders]
  have hrefused : Refused Search.twoExplorers.world 0 request (.outlet .explorer "near")
      (.rejected "Missing inputs") 3 :=
    .answered (d := 3) rfl (by decide)
  have htaken : Taken Search.twoExplorers.world 0 request (.outlet .explorer "near") :=
    .found (r := Provider.recordOfChain "far" ⟨Search.trialId, "block", 1, 1⟩) hrefused
      (by decide) (by cbv)
  obtain ⟨-, -, hgateway⟩ := broadcast_decided_by_taken Search.twoExplorers.world 0
    (g.providers .broadcast) request {} hne (Nat.zero_le _)
  have hdecides := hgateway g 10 (by decide) (by decide) rfl rfl
  exact ⟨hne, Nat.zero_le _, hdecides.1.mpr ⟨_, by simp [hproviders], htaken⟩⟩

end TxGateway.Broadcast
