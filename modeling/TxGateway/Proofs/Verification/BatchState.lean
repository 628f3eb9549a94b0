import TxGateway.Proofs.Verification.FirstAnswer

namespace TxGateway

/-! # The state of the batch decides

A verification service judges a batch as a whole, and may judge its roots one by one. Only the first
of the two counts for success. The list of roots is what a caller is told when the batch is not
confirmed, and a list that contradicts the state of its batch is not noticed.

* `Verification.ConfirmedBy` is what stands behind a success, and `Verification.AllConfirm` what
  leads to one. They differ only if answers tie, with each other or with the limit.
* `Verification.run_relist` says that the lists have no say in it.
* `Verification.confirmed_by_state` puts these together.
-/

namespace BatchVerdict

/-- The verdict with another list of roots. -/
def relist (f : BatchVerdict → List RootVerdict) (v : BatchVerdict) : BatchVerdict :=
  { v with roots := f v }

end BatchVerdict

/-- The outside with other lists of roots in the answers of verifiers. -/
def World.relist (f : BatchVerdict → List RootVerdict) (w : World) : World := fun now c =>
  match c with
  | .verify position roots =>
    (w now (.verify position roots)).map fun reply => reply.map (BatchVerdict.relist f)
  | c => w now c

namespace Verification

open BatchVerdict

variable {w : World} {start : Instant} {limit : Nat} {verifiers : List String}
  {roots : List RootClaim} {policy : Stragglers}

/-! ## States and success -/

theorem verdict_eq_ok_iff {r : Option Report} :
    verdict r = .ok () ↔ ∃ verifier v, r = some ⟨verifier, .ok v⟩ ∧ v.overall = .confirmed := by
  constructor
  · intro hok
    match r with
    | none => cases hok
    | some r =>
      have hsettles := settles_verdict r
      rw [hok] at hsettles
      cases hsettles with
      | confirmed h => exact ⟨_, _, rfl, h⟩
  · rintro ⟨verifier, v, rfl, h⟩
    simp [verdict, allConfirmed, h]

/-- An earliest answer, in time, reports the batch as confirmed. -/
def ConfirmedBy (w : World) (start : Instant) (limit : Nat) (verifiers : List String)
    (roots : List RootClaim) : Prop :=
  ∃ d ≤ limit, Earliest w start verifiers roots d ∧
    ∃ verifier v, Answers w start verifiers roots d ⟨verifier, .ok v⟩ ∧ v.overall = .confirmed

/-- The earliest answers come before the limit, and all of them report the batch as confirmed. -/
def AllConfirm (w : World) (start : Instant) (limit : Nat) (verifiers : List String)
    (roots : List RootClaim) : Prop :=
  ∃ d < limit, Earliest w start verifiers roots d ∧
    ∀ r, Answers w start verifiers roots d r → ∃ v, r.reply = .ok v ∧ v.overall = .confirmed

/-- Whether a result is a success is decided by the states that the earliest answers report. -/
structure DecidedByState (w : World) (start : Instant) (limit : Nat) (verifiers : List String)
    (roots : List RootClaim) (result : Except Failure Unit) : Prop where
  backed : result = .ok () → ConfirmedBy w start limit verifiers roots
  succeeds : AllConfirm w start limit verifiers roots → result = .ok ()

theorem confirmedBy_of_deciding {r : Option Report}
    (h : Deciding w start limit verifiers roots r) (hok : verdict r = .ok ()) :
    ConfirmedBy w start limit verifiers roots := by
  obtain ⟨verifier, v, rfl, hoverall⟩ := verdict_eq_ok_iff.mp hok
  cases h with
  | answer hd hlimit hr => exact ⟨_, hlimit, hd, verifier, v, hr, hoverall⟩

/-- A result that the plan of a verification admits is a success only if some answer stands behind
it. -/
theorem confirmedBy_of_admits (hroots : roots ≠ [])
    (h : (plan (start + limit) policy verifiers roots).Admits w start (.verified (.ok ()))) :
    ConfirmedBy w start limit verifiers roots := by
  by_cases hverifiers : verifiers = []
  · subst hverifiers
    obtain ⟨taken, -, hresult⟩ := h
    cases hresult
  obtain ⟨r, hdeciding, hresult⟩ := deciding_of_admits hverifiers hroots h
  exact confirmedBy_of_deciding hdeciding (Result.verified.inj hresult).symm

/-- Whichever of the earliest answers is taken, it confirms the batch. -/
theorem ok_of_outcome (hroots : roots ≠ []) {instant : Instant} {result : Except Failure Unit}
    (h : Outcome w start limit verifiers roots instant result)
    (hall : AllConfirm w start limit verifiers roots) : result = .ok () := by
  rcases hall with ⟨d, hlimit, hearliest, hconfirm⟩
  rcases h.decided hroots d hearliest hlimit with ⟨_, r, hr, hsettles⟩
  rcases hconfirm r hr with ⟨v, hreply, hoverall⟩
  cases hsettles with
  | confirmed _ => rfl
  | refuted hne =>
    cases hreply
    exact absurd hoverall hne
  | failed => cases hreply

theorem decidedByState_of_admits (hroots : roots ≠ []) {result : Except Failure Unit}
    (h : (plan (start + limit) policy verifiers roots).Admits w start (.verified result)) :
    DecidedByState w start limit verifiers roots result := by
  constructor
  case backed =>
    rintro rfl
    exact confirmedBy_of_admits hroots h
  case succeeds =>
    intro hall
    obtain ⟨_, hresult, houtcome⟩ := outcome_of_admits h
    cases hresult
    exact ok_of_outcome hroots houtcome hall

/-! ## The lists of roots -/

/-- The report with another list of roots. -/
def Report.relist (f : BatchVerdict → List RootVerdict) (r : Report) : Report :=
  { r with reply := r.reply.map (BatchVerdict.relist f) }

theorem verdict_relist_eq_ok_iff (f : BatchVerdict → List RootVerdict) (r : Option Report) :
    verdict (r.map (Report.relist f)) = .ok () ↔ verdict r = .ok () := by
  match r with
  | none => rfl
  | some ⟨verifier, .error e⟩ => rfl
  | some ⟨verifier, .ok v⟩ =>
    rw [verdict_eq_ok_iff, verdict_eq_ok_iff]
    simp [Report.relist, Except.map, relist]

/-- The tasks take the same course, and report the same but for the lists. -/
theorem tasks_relist (f : BatchVerdict → List RootVerdict) :
    tasks (w.relist f) start limit verifiers roots =
      (tasks w start limit verifiers roots).map (Timeline.map (Option.map (Report.relist f))) := by
  have hask : ∀ position verifier,
      ask roots (start + limit) position verifier (w.relist f) start =
        (ask roots (start + limit) position verifier w start).map
          (Option.map (Report.relist f)) := by
    intro position verifier
    have hresponse : w.relist f start (.verify position roots) =
      (w start (.verify position roots)).map fun reply => reply.map (BatchVerdict.relist f) := rfl
    rw [ask_eq, ask_eq, hresponse, Response.course_map, Response.duration_map]
    simp only [Timeline.map, Option.map_map]
    congr 2
    funext reply
    cases reply <;> rfl
  simp only [tasks, hask, List.mapIdx_eq_zipIdx_map, List.map_map, Function.comp_def]

/-- With other lists of roots a verification ends as before, and succeeds if it did before. -/
theorem run_relist (f : BatchVerdict → List RootVerdict) :
    let other := run (w.relist f) start verifiers roots (start + limit) policy
    let same := run w start verifiers roots (start + limit) policy
    other.moment = same.moment ∧ (other.result = .ok () ↔ same.result = .ok ()) := by
  intro other same
  by_cases hverifiers : verifiers = []
  · simp [other, same, run, hverifiers]
  by_cases hroots : roots = []
  · simp [other, same, run, hroots]
  have hrun : ∀ w, run w start verifiers roots (start + limit) policy =
      (Scope.first start (start + limit) policy (tasks w start limit verifiers roots)).map
        fun a => verdict (a.map Arrival.value) := by
    intro w
    simp [run, hverifiers, hroots, tasks]
  -- the same task comes first, and its report differs in the list alone
  have hvalue : ∀ a : Option (Arrival Report),
      (a.map (Arrival.map (Report.relist f))).map Arrival.value =
        (a.map Arrival.value).map (Report.relist f) := by
    intro a
    cases a <;> rfl
  simp only [other, same, hrun, tasks_relist, Scope.first_map, Run.map, hvalue]
  exact ⟨trivial, verdict_relist_eq_ok_iff f _⟩

/-! ## Verifications as a whole -/

/-- A verification of a batch succeeds only if an earliest answer reports the batch as confirmed, and
it does succeed if all earliest answers do. What answers say about single roots has no part in it. -/
theorem confirmed_by_state (w : World) (start : Instant) (limit : Nat) (verifiers : List String)
    (roots : List RootClaim) (policy : Stragglers) (hroots : roots ≠ []) :
    DecidedByState w start limit verifiers roots
      (run w start verifiers roots (start + limit) policy).result ∧
    (∀ now l instant x, Alone w (plan (start + limit) policy verifiers roots) start now l →
      l.ended = some (instant, x) →
        ∃ result, x = .verified result ∧ DecidedByState w start limit verifiers roots result) ∧
    (∀ g : Gateway, g.connections.verifiers = verifiers → g.settings.limit .merkle = limit →
      DecidedByState w start limit verifiers roots (g.verify w start roots).result) ∧
    ∀ f, (run (w.relist f) start verifiers roots (start + limit) policy).result = .ok () ↔
      (run w start verifiers roots (start + limit) policy).result = .ok () := by
  have hrun : ∀ policy, DecidedByState w start limit verifiers roots
      (run w start verifiers roots (start + limit) policy).result := by
    intro policy
    exact decidedByState_of_admits hroots (admits_run w start limit verifiers roots policy)
  refine ⟨hrun policy, ?_, ?_, fun f => (run_relist f).2⟩
  · intro now l instant x halone hended
    have hfaithful := faithful_of_alone (brief_plan w start limit verifiers roots policy) halone
    have hadmits := (hfaithful.result instant x hended).2
    rcases outcome_of_admits hadmits with ⟨result, rfl, _⟩
    exact ⟨result, rfl, decidedByState_of_admits hroots hadmits⟩
  · rintro g rfl rfl
    exact hrun _

/-- A verifier that confirms a batch, and says of its second root what is given. -/
def confirming (second : Verdict) : Script where
  verifiers := [{
    name := "only"
    verdict := .ok ⟨.confirmed, [⟨"near", 1, none, .confirmed⟩, ⟨"far", 2, none, second⟩]⟩ }]

theorem confirmed_consistently :
    let w := (confirming .confirmed).world
    let g := Gateway.withoutMiners {} (confirming .confirmed).connections
    let roots : List RootClaim := [⟨"near", 1⟩, ⟨"far", 2⟩]
    (g.verify w 0 roots).result = .ok () ∧ ConfirmedBy w 0 10000 g.connections.verifiers roots := by
  intro w g roots
  have hok : (g.verify w 0 roots).result = .ok () := rfl
  obtain ⟨-, -, hgateway, -⟩ := confirmed_by_state w 0 10000 g.connections.verifiers roots
    g.settings.merkleStragglers (List.cons_ne_nil _ _)
  exact ⟨hok, (hgateway g rfl (by decide)).backed hok⟩

/-- A batch may be confirmed by an answer that calls one of its roots invalid. -/
theorem confirmed_with_invalid_root :
    let w := (confirming .invalid).world
    let g := Gateway.withoutMiners {} (confirming .invalid).connections
    let roots : List RootClaim := [⟨"near", 1⟩, ⟨"far", 2⟩]
    g.connections.verifiers = ["only"] ∧
      ∃ v, w 0 (.verify 0 roots) = .answer 0 (.ok v) ∧ (∃ r ∈ v.roots, r.verdict = .invalid) ∧
        (g.verify w 0 roots).result = .ok () := by
  intro w g roots
  refine ⟨rfl, _, rfl, ⟨⟨"far", 2, none, .invalid⟩, ?_, rfl⟩, ?_⟩
  · decide
  · rfl

end Verification

end TxGateway
