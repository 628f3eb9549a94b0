import TxGateway.Gateway.Session
import TxGateway.Proofs.Broadcast.FirstAcceptance
import TxGateway.Proofs.Search.Trail

namespace TxGateway

/-! # The calls of a broadcast

What a broadcast calls follows from its providers and from the words of their refusals. Each
provider is handed the transaction once, and never again, whatever comes of it. A refusal in
questionable words leads to one search, and nothing else leads to a look-up.

* `Broadcast.Doubted` says that a provider's refusal is questionable, and `Broadcast.LookUps` tells
  the look-ups of its task: those of one search then, and none otherwise.
* `Broadcast.lookUps_of_task` goes through the ways in which a task may go.
* `Broadcast.exists_walks` puts the calls of all tasks together, by induction on the providers.
* `Broadcast.broadcast_calls_each_provider_once` is about the broadcasts of a gateway.
-/

variable {w : World} {start : Instant} {id hex : String} {limit : Nat} {latch : Latch}

/-! ## Kinds of calls -/

theorem Provider.kind_submitCall (p : Provider) (hex : String) :
    (p.submitCall hex).kind = .broadcast := by
  cases p <;> rfl

theorem Provider.kind_lookUpCall (p : Provider) (id : String) :
    (p.lookUpCall id).kind = .query := by
  cases p <;> rfl

namespace Broadcast

variable {request : Request} {p : Provider} {t : Instant} {e : ProviderError}
  {walk : List CallTrace}

/-- The call hands a transaction over; others look one up. -/
def isSubmission (c : CallTrace) : Bool := c.call.kind == .broadcast

theorem isSubmission_of_call {c : CallTrace} (h : c.call = p.submitCall hex) :
    isSubmission c = true := by
  rw [isSubmission, h, p.kind_submitCall]
  rfl

/-! ## The calls of a task -/

/-- The submission is refused at an instant, in words that leave open whether the provider has the
transaction. -/
def Doubted (w : World) (start : Instant) (request : Request) (p : Provider) (t : Instant) : Prop :=
  ∃ e, Refused w start request p e t ∧ Wording.classify e.message = .questionable

/-- The look-ups of a provider's task. -/
inductive LookUps (w : World) (start : Instant) (request : Request) (p : Provider) :
    List CallTrace → Prop
  | none (h : ∀ t, ¬ Doubted w start request p t) : LookUps w start request p []
  | search {t : Instant} (h : Doubted w start request p t) :
      LookUps w start request p (request.inquiry w t).calls

theorem Refused.doubted_iff {t' : Instant} (h : Refused w start request p e t) :
    Doubted w start request p t' ↔ t' = t ∧ Wording.classify e.message = .questionable := by
  constructor
  · rintro ⟨e', h', hwords⟩
    rcases h.unique h' with ⟨rfl, rfl⟩
    exact ⟨rfl, hwords⟩
  · rintro ⟨rfl, hwords⟩
    exact ⟨e, h, hwords⟩

/-- The look-ups of a task are those by which its refusal is settled. -/
theorem lookUps_settle (h : Refused w start request p e t) :
    LookUps w start request p (settle request e w t).calls := by
  have hnone : Wording.classify e.message ≠ .questionable → LookUps w start request p [] := by
    intro hwords
    apply LookUps.none
    intro t' hdoubted
    exact hwords (h.doubted_iff.mp hdoubted).2
  cases hwords : Wording.classify e.message with
  | alreadyKnown =>
    rw [settle_of_known hwords]
    exact hnone (by simp [hwords])
  | failure =>
    rw [settle_of_failure hwords]
    exact hnone (by simp [hwords])
  | questionable =>
    rw [settle_of_questionable hwords]
    exact .search ⟨e, h, hwords⟩

/-- A submission that ends in time without an error leaves nothing to doubt. -/
theorem not_doubted
    (hdelay : (request.submission p w start).delay ≤ ((request.deadline - start : Nat) : ℕ∞))
    (hnone : ∀ d e, request.submission p w start ≠ .answer d (.error e)) (t : Instant) :
    ¬ Doubted w start request p t := by
  rintro ⟨e, hrefused, _⟩
  cases hrefused with
  | answered h hd => exact hnone _ _ h
  | late h => exact absurd h (not_lt.mpr hdelay)

/-- A task makes its submission when the broadcast begins, and then its look-ups. -/
theorem lookUps_of_task (hstart : start ≤ request.deadline) (p : Provider) (w : World) :
    ∃ submission walk, (attempt request p w start).calls = submission :: walk ∧
      submission.call = p.submitCall request.hex ∧ submission.began = start ∧
      LookUps w start request p walk := by
  have hrefused : ∀ {e t}, Refused w start request p e t →
      ∃ submission walk, (attempt request p w start).calls = submission :: walk ∧
        submission.call = p.submitCall request.hex ∧ submission.began = start ∧
        LookUps w start request p walk := by
    intro e t h
    rcases attempt_of_refused hstart h with ⟨fate, hattempt⟩
    rw [hattempt]
    exact ⟨_, _, rfl, rfl, rfl, lookUps_settle h⟩
  rcases submission_cases w start request p with ⟨d, h, hd⟩ | ⟨d, e, h, hd⟩ | ⟨d, h, hd⟩ | h
  · rw [attempt_of_accepted h hd]
    refine ⟨_, _, rfl, rfl, rfl, .none (not_doubted ?_ ?_)⟩
    · rw [h]
      exact Nat.cast_le.mpr hd
    · simp [h]
  · exact hrefused (.answered h (by lia))
  · rw [attempt_of_crash h hd]
    refine ⟨_, _, rfl, rfl, rfl, .none (not_doubted ?_ ?_)⟩
    · rw [h]
      exact Nat.cast_le.mpr hd
    · simp [h]
  · exact hrefused (.late h)

theorem LookUps.not_isSubmission (h : LookUps w start request p walk) :
    ∀ c ∈ walk, isSubmission c = false := by
  cases h with
  | none _ =>
    intro c hc
    cases hc
  | search _ =>
    intro c hc
    rcases (Search.makes_inOrder _ _ _ _).call hc with ⟨q, _, hcall⟩
    rw [isSubmission, hcall, q.kind_lookUpCall]
    rfl

/-! ## The calls of all tasks -/

/-- Among the calls of all tasks there is one submission a provider, and what is left are the
look-ups of the tasks. -/
theorem exists_walks (hstart : start ≤ request.deadline) (w : World) (providers : List Provider) :
    let calls := Scope.calls (providers.map fun p => attempt request p w start)
    ((calls.filter isSubmission).map fun c => (c.call, c.began)) =
        providers.map (fun p => (p.submitCall request.hex, start)) ∧
      ∃ walks, List.Forall₂ (LookUps w start request) providers walks ∧
        (calls.filter fun c => !isSubmission c) = walks.flatten := by
  induction providers with
  | nil => exact ⟨rfl, [], .nil, rfl⟩
  | cons p rest ih =>
    rcases ih with ⟨hrest, walks, hwalks, hothers⟩
    rcases lookUps_of_task hstart p w with ⟨submission, walk, htask, hcall, hbegan, hwalk⟩
    intro calls
    have hcalls : calls =
        submission :: (walk ++ Scope.calls (rest.map fun p => attempt request p w start)) := by
      show (attempt request p w start).calls ++ _ = _
      rw [htask]
      rfl
    -- the task adds its submission on one side, and its look-ups on the other
    have hsubmission : isSubmission submission = true := isSubmission_of_call hcall
    have hnone := hwalk.not_isSubmission
    have hsubmissions : walk.filter isSubmission = [] := by
      simpa [List.filter_eq_nil_iff] using hnone
    have hlookUps : (walk.filter fun c => !isSubmission c) = walk := by
      simpa [List.filter_eq_self] using hnone
    refine ⟨?_, walk :: walks, .cons hwalk hwalks, ?_⟩
    · rw [hcalls, List.filter_cons_of_pos hsubmission, List.filter_append, hsubmissions,
        List.nil_append, List.map_cons, hrest, hcall, hbegan, List.map_cons]
    · rw [hcalls, List.filter_cons_of_neg (by simp [hsubmission]), List.filter_append, hlookUps,
        hothers, List.flatten_cons]

/-! ## The broadcasts of a gateway -/

/-- The search that a refusal leads to is the gateway's own, for what is left of the limit. -/
theorem inquiry_eq_search (g : Gateway) (w : World) {t : Instant}
    (hid : TxId.isLongEnough id = true) (ht : t ≤ start + limit) :
    ((requestOf g start id hex limit).inquiry w t).calls =
      (g.search w t id .mempool (min (start + limit - t) (g.settings.limit .query))).calls := by
  have hlimit : t + min (start + limit - t) (g.settings.limit .query) =
      min (start + limit) (t + g.settings.limit .query) := by
    lia
  simp [Request.inquiry, requestOf, Gateway.search, hid, hlimit]

/-- **Who a broadcast calls.** Whatever its task meets outside, a provider is handed the transaction
once, when the broadcast begins, and is followed by the look-ups of one search if its refusal is
questionable, and by none otherwise. A gateway calls nobody for an id that is too short, which it
looks at first, or for a blank text. Otherwise it calls the providers of its broadcast list in this
way and makes no other call. Each of its searches is one of its own for a transaction in the
mempool, goes along its query list, and is lost only by a look-up that crashes. -/
theorem broadcast_calls_each_provider_once :
    (∀ (start : Instant) (request : Request), start ≤ request.deadline →
      ∀ (p : Provider) (outside : World), ∃ submission walk,
        (attempt request p outside start).calls = submission :: walk ∧
        submission.call = p.submitCall request.hex ∧ submission.began = start ∧
        LookUps outside start request p walk) ∧
    ∀ (g : Gateway) (w : World) (start : Instant) (id hex : String) (limit : Nat) (latch : Latch),
      let step := g.broadcast w start id hex limit latch
      let request := requestOf g start id hex limit
      (Text.byteLength id < 50 →
        step.result = ⟨.error .shortId, latch⟩ ∧ step.allCalls = []) ∧
      (50 ≤ Text.byteLength id → Text.isBlankText hex = true →
        step.result = ⟨.error .blankHex, latch⟩ ∧ step.allCalls = []) ∧
      (50 ≤ Text.byteLength id → Text.isBlankText hex = false →
        ((step.allCalls.filter isSubmission).map fun c => (c.call, c.began)) =
          (g.providers .broadcast).map (fun p => (p.submitCall hex, start)) ∧
        (∃ walks, List.Forall₂ (LookUps w start request) (g.providers .broadcast) walks ∧
          (step.allCalls.filter fun c => !isSubmission c) = walks.flatten) ∧
        ((∀ p ∈ g.providers .broadcast, ∀ t, ¬ Doubted w start request p t) →
          ∀ c ∈ step.allCalls, isSubmission c = true) ∧
        ∀ p t, Doubted w start request p t →
          let search := request.inquiry w t
          search.calls =
            (g.search w t id .mempool (min (start + limit - t) (g.settings.limit .query))).calls ∧
          Search.Trail id .mempool (g.providers .query) search.calls search.value ∧
          (search.value = none ↔ ∃ c ∈ search.calls, c.fate = .crashed)) := by
  refine ⟨fun start request hstart p outside => lookUps_of_task hstart p outside, ?_⟩
  intro g w start id hex limit latch step request
  have hstart : start ≤ request.deadline := Nat.le_add_right start limit
  refine ⟨?_, ?_, ?_⟩
  · intro hshort
    have hid : TxId.isLongEnough id = false := decide_eq_false (Nat.not_le_of_lt hshort)
    simp only [step, Gateway.broadcast, hid]
    exact ⟨rfl, rfl⟩
  · intro hlong hblank
    have hid : TxId.isLongEnough id = true := decide_eq_true hlong
    simp only [step, Gateway.broadcast, hid, hblank]
    exact ⟨rfl, rfl⟩
  · intro hlong hhex
    have hid : TxId.isLongEnough id = true := decide_eq_true hlong
    have hcalls : step.allCalls =
        Scope.calls ((g.providers .broadcast).map fun p => attempt request p w start) := by
      have hstep : step = run w start (g.providers .broadcast) request latch :=
        broadcast_of_valid hid hhex
      rw [hstep]
      cases g.providers .broadcast with
      | nil => rfl
      | cons p rest => exact List.append_nil _
    rcases exists_walks hstart w (g.providers .broadcast) with
      ⟨hsubmissions, walks, hwalks, hlookUps⟩
    rw [hcalls]
    refine ⟨hsubmissions, ⟨walks, hwalks, hlookUps⟩, ?_, ?_⟩
    · intro hsure c hc
      rcases List.mem_flatMap.mp hc with ⟨task, htask, hc⟩
      rcases List.mem_map.mp htask with ⟨p, hp, rfl⟩
      rcases lookUps_of_task hstart p w with ⟨submission, walk, htask, hcall, _, hwalk⟩
      rw [htask] at hc
      cases hwalk with
      | none _ =>
        rw [List.mem_singleton.mp hc]
        exact isSubmission_of_call hcall
      | search h => exact absurd h (hsure p hp _)
    · intro p t hdoubted search
      rcases hdoubted with ⟨e, hrefused, _⟩
      have htrail := Search.trail_inOrder id .mempool
        (min request.deadline (t + request.fallbackLimit)) (g.providers .query) w t
      exact ⟨inquiry_eq_search g w hid (hrefused.bounds hstart).2, htrail, htrail.value_eq_none_iff⟩

/-- An explorer that leaves a refusal open, and a node proxy that takes the transaction and crashes
when it is asked for it. -/
def lostLookUp : Script where
  explorer := some {
    name := "near"
    published := .error (.rejected "Missing inputs")
    pace := { latency := 3 } }
  nodeProxy := some {
    name := "node"
    published := .ok Search.trialId
    pace := { latency := 1, crashes := [.query] } }

/-- The transaction has been taken long since when the explorer's refusal leads to a search, which
is lost at the node proxy. -/
theorem calls_with_lost_search :
    let g := Gateway.withoutMiners { nodeProxy := some ⟨"u", some ⟨"k"⟩⟩ } lostLookUp.connections
    let request := requestOf g 0 Search.trialId "00" 10
    let near : Provider := .outlet .explorer "near"
    let step := g.broadcast lostLookUp.world 0 Search.trialId "00" 10 {}
    50 ≤ Text.byteLength Search.trialId ∧ Text.isBlankText "00" = false ∧
      ((step.allCalls.filter isSubmission).map fun c => (c.call, c.began)) =
        [(.publish .explorer "00", 0), (.publish .nodeProxy "00", 0)] ∧
      Doubted lostLookUp.world 0 request near 3 ∧
      (request.inquiry lostLookUp.world 3).calls.map CallTrace.fate = [.answered, .crashed] ∧
      (request.inquiry lostLookUp.world 3).value = none ∧
      (g.broadcast lostLookUp.world 0 "short" "" 10 {}).result = ⟨.error .shortId, {}⟩ ∧
      (g.broadcast lostLookUp.world 0 Search.trialId " " 10 {}).result =
        ⟨.error .blankHex, {}⟩ := by
  intro g request near step
  have hlong : 50 ≤ Text.byteLength Search.trialId := by decide
  have hhex : Text.isBlankText "00" = false := by decide
  have hdoubted : Doubted lostLookUp.world 0 request near 3 :=
    ⟨.rejected "Missing inputs", .answered (d := 3) rfl (by decide), by decide⟩
  have hfates : (request.inquiry lostLookUp.world 3).calls.map CallTrace.fate =
      [.answered, .crashed] := by cbv
  rcases broadcast_calls_each_provider_once with ⟨_, hgateway⟩
  rcases hgateway g lostLookUp.world 0 Search.trialId "00" 10 {} with ⟨_, _, hvalid⟩
  rcases hvalid hlong hhex with ⟨hsubmissions, _, _, hsearch⟩
  rcases hsearch near 3 hdoubted with ⟨_, _, hlost⟩
  rcases hgateway g lostLookUp.world 0 "short" "" 10 {} with ⟨hshort, _, _⟩
  rcases hgateway g lostLookUp.world 0 Search.trialId " " 10 {} with ⟨_, hblank, _⟩
  have hcrashed : ∃ c ∈ (request.inquiry lostLookUp.world 3).calls, c.fate = .crashed :=
    List.mem_map.mp (by rw [hfates]; decide)
  exact ⟨hlong, hhex, hsubmissions, hdoubted, hfates, hlost.mpr hcrashed,
    (hshort (by decide)).1, (hblank hlong (by decide)).1⟩

end Broadcast

end TxGateway
