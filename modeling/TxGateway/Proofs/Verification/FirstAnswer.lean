import TxGateway.Proofs.Traffic.Faithful
import TxGateway.Scripted

namespace TxGateway

/-! # The first answer decides

A batch goes to all verifiers at once, so each of them has one response to it, with a delay of its
own. The answer with the least delay settles the result, an error no less than a verdict. A verifier
that crashes or stays silent has no say, and what comes after the limit comes too late.

* `Answers` and `Earliest` speak of the outside alone, without any regard to tasks and arrivals.
* `Settles` is the result that an answer settles.
* `mem_arrivals_iff` tells what the tasks report, and `deciding_of_mayTake` which report a caller may
  be left with.
* `first_answer_decides` is about a verification as a whole, and about every way that it may take.
-/

/-- What may be taken in another form may be taken as it is. -/
theorem Wait.MayTake.of_map {α β : Type} {f : α → β} {start deadline : Instant}
    {policy : Stragglers} {arrivals : List (Arrival α)} {taken : List (Arrival β)}
    (h : (Wait.first deadline policy).MayTake start (arrivals.map (Arrival.map f)) taken) :
    ∃ taken', (Wait.first deadline policy).MayTake start arrivals taken' ∧
      taken = taken'.map (Arrival.map f) := by
  rcases h with ⟨a, ha, hleast, hintime, rfl⟩ | ⟨hlate, rfl⟩
  · obtain ⟨b, hb, rfl⟩ := List.mem_map.mp ha
    exact ⟨[b], .inl ⟨b, hb, fun c hc => hleast _ (List.mem_map_of_mem hc), hintime, rfl⟩, rfl⟩
  · exact ⟨[], .inr ⟨fun a ha => hlate _ (List.mem_map_of_mem ha), rfl⟩, rfl⟩

namespace Verification

open Activity

variable {w : World} {start : Instant} {limit : Nat} {verifiers : List String}
  {roots : List RootClaim} {policy : Stragglers}

/-! ## Answers -/

/-- A verifier that is asked about the batch at the start answers after some time. -/
def Answers (w : World) (start : Instant) (verifiers : List String) (roots : List RootClaim)
    (delay : Nat) (r : Report) : Prop :=
  ∃ position, verifiers[position]? = some r.verifier ∧
    w start (.verify position roots) = .answer delay r.reply

/-- The least delay of the answers. -/
structure Earliest (w : World) (start : Instant) (verifiers : List String)
    (roots : List RootClaim) (delay : Nat) : Prop where
  reached : ∃ r, Answers w start verifiers roots delay r
  least : ∀ d r, Answers w start verifiers roots d r → delay ≤ d

/-- The result that an answer settles by itself. -/
inductive Settles : Report → Except Failure Unit → Prop
  | confirmed {verifier : String} {v : BatchVerdict} (h : v.overall = .confirmed) :
      Settles ⟨verifier, .ok v⟩ (.ok ())
  | refuted {verifier : String} {v : BatchVerdict} (h : v.overall ≠ .confirmed) :
      Settles ⟨verifier, .ok v⟩ (.error (.rootsNotConfirmed
        ((v.roots.filter fun r => r.verdict ≠ .confirmed).map RootVerdict.root)))
  | failed {verifier : String} {e : ProviderError} :
      Settles ⟨verifier, .error e⟩
        (.error (.verificationFailed (verifier ++ ": " ++ e.message)))

theorem settles_verdict (r : Report) : Settles r (verdict (some r)) := by
  obtain ⟨verifier, reply⟩ := r
  cases reply with
  | error e => exact .failed
  | ok v =>
    by_cases h : v.overall = .confirmed
    · have hall : v.allConfirmed = true := by simp [BatchVerdict.allConfirmed, h]
      simp only [verdict, hall, if_true]
      exact .confirmed h
    · have hall : v.allConfirmed = false := by simp [BatchVerdict.allConfirmed, h]
      have hroots : v.unconfirmedRoots =
          (v.roots.filter fun r => r.verdict ≠ .confirmed).map RootVerdict.root := by
        unfold BatchVerdict.unconfirmedRoots
        congr 2
        funext r
        by_cases hr : r.verdict = .confirmed <;> simp [hr]
      simp only [verdict, hall, Bool.false_eq_true, if_false, hroots]
      exact .refuted h

/-! ## The tasks -/

/-- The tasks of a verification. -/
def tasks (w : World) (start : Instant) (limit : Nat) (verifiers : List String)
    (roots : List RootClaim) : List (Scope.Task Report) :=
  verifiers.mapIdx fun i name => ask roots (start + limit) i name w start

theorem ask_eq (roots : List RootClaim) (limit position : Nat) (verifier : String) (w : World)
    (start : Instant) :
    let response := w start (.verify position roots)
    let course := response.course (.verify position roots) limit start
    ask roots (start + limit) position verifier w start =
      ⟨course.calls, start + response.duration limit,
        course.value.map fun reply => some ⟨verifier, reply.getD (.error .late)⟩⟩ := by
  intro response course
  have hlimit : start + limit - start = limit := Nat.add_sub_cancel_left start limit
  have hcourse : Activity.ask (.verify position roots) (start + limit) w start = course := by
    rw [Activity.ask_eq, hlimit]
  unfold ask
  rw [bind_pure_apply, hcourse, ← response.course_finish]

theorem wellTimed_tasks : Scope.WellTimed start (tasks w start limit verifiers roots) := by
  intro t ht
  obtain ⟨position, -, rfl⟩ := List.mem_mapIdx.mp ht
  exact (makes_ask roots (start + limit) position _).gapless w start

/-- A verifier that is still open when the limit is reached. -/
def Late (w : World) (start : Instant) (limit : Nat) (verifiers : List String)
    (roots : List RootClaim) (verifier : String) : Prop :=
  ∃ position, verifiers[position]? = some verifier ∧
    (limit : ℕ∞) < (w start (.verify position roots)).delay

/-- A task reports the answer that comes within the limit, or that none has come. -/
theorem ask_value_eq {position : Nat} {verifier : String} {r : Report} :
    (ask roots (start + limit) position verifier w start).value.join = some r ↔
      verifier = r.verifier ∧
      ((∃ d ≤ limit, w start (.verify position roots) = .answer d r.reply) ∨
        ((limit : ℕ∞) < (w start (.verify position roots)).delay ∧ r.reply = .error .late)) := by
  rw [ask_eq, Option.join_eq_some_iff, Option.map_eq_some_iff]
  constructor
  · rintro ⟨reply, hreply, hr⟩
    cases hr
    cases reply with
    | some x => exact ⟨rfl, .inl (Response.course_value_eq_reply.mp hreply)⟩
    | none => exact ⟨rfl, .inr ⟨Response.course_value_eq_no_reply.mp hreply, rfl⟩⟩
  · rintro ⟨rfl, hanswer | ⟨hlate, hr⟩⟩
    · exact ⟨some r.reply, Response.course_value_eq_reply.mpr hanswer, rfl⟩
    · exact ⟨none, Response.course_value_eq_no_reply.mpr hlate, by rw [← hr]; rfl⟩

theorem mem_arrivals_iff {a : Arrival Report} :
    a ∈ Scope.arrivals start (tasks w start limit verifiers roots) ↔
      (∃ d ≤ limit, Answers w start verifiers roots d a.value ∧ a.instant = start + d) ∨
      (Late w start limit verifiers roots a.value.verifier ∧ a.value.reply = .error .late ∧
        a.instant = start + limit) := by
  have hanswered : ∀ {position verifier d reply}, d ≤ limit →
      w start (.verify position roots) = .answer d reply →
      (ask roots (start + limit) position verifier w start).finish = start + d := by
    intro position verifier d reply hd h
    simp [ask_eq, h, Response.duration, Nat.min_eq_left hd]
  have hlate : ∀ {position verifier}, (limit : ℕ∞) < (w start (.verify position roots)).delay →
      (ask roots (start + limit) position verifier w start).finish = start + limit := by
    intro position verifier h
    rw [ask_eq, Response.duration_of_lt h]
  rw [Scope.mem_arrivals wellTimed_tasks]
  constructor
  · -- the task at a position reports what the verifier at that position answers
    rintro ⟨t, ht, hvalue, hinstant⟩
    obtain ⟨position, hposition, rfl⟩ := List.mem_mapIdx.mp ht
    obtain ⟨hname, ⟨d, hd, hanswer⟩ | ⟨hdelay, hreply⟩⟩ := ask_value_eq.mp hvalue
    · refine .inl ⟨d, hd, ⟨position, ?_, hanswer⟩, ?_⟩
      · rw [← hname, List.getElem?_eq_getElem hposition]
      · rw [← hinstant, hanswered hd hanswer]
    · refine .inr ⟨⟨position, ?_, hdelay⟩, hreply, ?_⟩
      · rw [← hname, List.getElem?_eq_getElem hposition]
      · rw [← hinstant, hlate hdelay]
  · have hmem : ∀ {position verifier}, verifiers[position]? = some verifier →
        ask roots (start + limit) position verifier w start ∈
          tasks w start limit verifiers roots := by
      intro position verifier hname
      obtain ⟨hposition, rfl⟩ := List.getElem?_eq_some_iff.mp hname
      exact List.mem_mapIdx.mpr ⟨position, hposition, rfl⟩
    rintro (⟨d, hd, ⟨position, hname, hanswer⟩, hinstant⟩ |
      ⟨⟨position, hname, hdelay⟩, hreply, hinstant⟩)
    · refine ⟨_, hmem hname, ask_value_eq.mpr ⟨rfl, .inl ⟨d, hd, hanswer⟩⟩, ?_⟩
      rw [hanswered hd hanswer, hinstant]
    · refine ⟨_, hmem hname, ask_value_eq.mpr ⟨rfl, .inr ⟨hdelay, hreply⟩⟩, ?_⟩
      rw [hlate hdelay, hinstant]

/-! ## Which report decides -/

/-- A report that a caller may be left with when the wait is over: an earliest answer within the
limit, or no answer at all where none has come before the limit. -/
inductive Deciding (w : World) (start : Instant) (limit : Nat) (verifiers : List String)
    (roots : List RootClaim) : Option Report → Prop
  | answer {d : Nat} {r : Report} (h : Earliest w start verifiers roots d) (hd : d ≤ limit)
      (hr : Answers w start verifiers roots d r) : Deciding w start limit verifiers roots (some r)
  | late {verifier : String} (h : ∀ d r, Answers w start verifiers roots d r → limit ≤ d)
      (hlate : Late w start limit verifiers roots verifier) :
      Deciding w start limit verifiers roots (some ⟨verifier, .error .late⟩)
  | nobody (h : ∀ d r, Answers w start verifiers roots d r → limit ≤ d) :
      Deciding w start limit verifiers roots none

/-- An answer within the limit arrives. -/
theorem Answers.mem_arrivals {d : Nat} {r : Report} (h : Answers w start verifiers roots d r)
    (hd : d ≤ limit) :
    ⟨start + d, r⟩ ∈ Scope.arrivals start (tasks w start limit verifiers roots) :=
  mem_arrivals_iff.mpr (.inl ⟨d, hd, h, rfl⟩)

/-- Whatever order arrivals at the same instant come in. -/
theorem deciding_of_mayTake {taken : List (Arrival Report)}
    (h : (Wait.first (start + limit) policy).MayTake start
      (Scope.arrivals start (tasks w start limit verifiers roots)) taken) :
    Deciding w start limit verifiers roots (taken.head?.map Arrival.value) := by
  rcases h with ⟨a, ha, hleast, -, rfl⟩ | ⟨hlate, rfl⟩
  · -- no answer within the limit arrives before the one that is taken
    have hbefore : ∀ d r, Answers w start verifiers roots d r → d ≤ limit →
        a.instant ≤ start + d := fun d r hr hd => hleast _ (hr.mem_arrivals hd)
    rcases mem_arrivals_iff.mp ha with ⟨d, hd, hr, hinstant⟩ | ⟨hopen, hreply, hinstant⟩
    · -- answers that come after the limit have larger delays than those that are heard
      refine .answer ⟨⟨a.value, hr⟩, fun d' r' hr' => ?_⟩ hd hr
      rcases Nat.lt_or_ge limit d' with hd' | hd'
      · exact hd.trans hd'.le
      · have := hbefore d' r' hr' hd'
        lia
    · have hnone : ∀ d r, Answers w start verifiers roots d r → limit ≤ d := by
        intro d r hr
        by_contra hd
        have := hbefore d r hr (Nat.le_of_not_le hd)
        lia
      have hvalue : a.value = ⟨a.value.verifier, .error .late⟩ := by rw [← hreply]
      show Deciding w start limit verifiers roots (some a.value)
      rw [hvalue]
      exact .late hnone hopen
  · refine .nobody fun d r hr => ?_
    by_contra hd
    have := (hlate _ (hr.mem_arrivals (Nat.le_of_not_le hd))).2
    lia

/-! ## The plan of a verification -/

/-- What a verification asks: the whole batch of each verifier, once and at the start. -/
def asked (start : Instant) (verifiers : List String) (roots : List RootClaim) :
    List (Call × Instant) :=
  if roots.isEmpty then []
  else (List.range verifiers.length).map fun position => (.verify position roots, start)

/-- What a verification comes to that ends at an instant with a result. -/
structure Outcome (w : World) (start : Instant) (limit : Nat) (verifiers : List String)
    (roots : List RootClaim) (instant : Instant) (result : Except Failure Unit) : Prop where
  unserved : verifiers = [] → result = .error .noVerifiers ∧ instant = start
  vacuous : verifiers ≠ [] → roots = [] → result = .ok () ∧ instant = start
  decided : roots ≠ [] → ∀ d, Earliest w start verifiers roots d → d < limit →
    instant = start + d ∧ ∃ r, Answers w start verifiers roots d r ∧ Settles r result
  undecided : verifiers ≠ [] → roots ≠ [] →
    (∀ d r, Answers w start verifiers roots d r → limit < d) →
      result = .error (.verificationFailed "no verification service answered") ∨
      ∃ verifier, Late w start limit verifiers roots verifier ∧
        result = .error (.verificationFailed (verifier ++ ": " ++ ProviderError.late.message))
  intime : instant ≤ start + limit

section

variable (hverifiers : verifiers ≠ []) (hroots : roots ≠ [])

include hverifiers hroots

theorem plan_of_ne_nil {deadline : Instant} : plan deadline policy verifiers roots =
    .ofTasks .answer (verifiers.mapIdx fun i name => (stepwise roots deadline i name).process)
      (.first deadline policy) fun arrivals =>
        .verified (verdict (arrivals.head?.bind fun a => a.value.answer?)) := by
  unfold plan
  rw [if_neg (by simpa using hverifiers), if_neg (by simpa using hroots)]

theorem timelines_plan : (plan (start + limit) policy verifiers roots).timelines w start =
    (tasks w start limit verifiers roots).map (Timeline.map (Option.map .answer)) := by
  rw [plan_of_ne_nil hverifiers hroots, Plan.timelines_ofTasks, tasks]
  simp only [List.mapIdx_eq_zipIdx_map, List.map_map, Function.comp_def, Stepwise.activity_eq]

/-- The run of the plan ends when its tasks let a caller go on who waits for the first. -/
theorem moment_plan : (plan (start + limit) policy verifiers roots).moment w start =
    (Scope.first start (start + limit) policy
      (tasks w start limit verifiers roots)).moment.instant := by
  have hwait : (plan (start + limit) policy verifiers roots).wait =
      .first (start + limit) policy := by
    rw [plan_of_ne_nil hverifiers hroots]
    rfl
  rw [Plan.moment_of_first hwait, timelines_plan hverifiers hroots, Scope.first_map]
  rfl

theorem moment_le : (plan (start + limit) policy verifiers roots).moment w start ≤
    start + limit := by
  rw [moment_plan hverifiers hroots]
  exact Scope.first_le wellTimed_tasks (.inr (.inr (by lia)))

theorem deciding_of_admits {x : Result}
    (h : (plan (start + limit) policy verifiers roots).Admits w start x) :
    ∃ r, Deciding w start limit verifiers roots r ∧ x = .verified (verdict r) := by
  obtain ⟨taken, htaken, rfl⟩ := h
  rw [Plan.arrivals, timelines_plan hverifiers hroots, Scope.arrivals_map,
    plan_of_ne_nil hverifiers hroots] at htaken
  obtain ⟨reports, hreports, rfl⟩ := htaken.of_map
  refine ⟨_, deciding_of_mayTake hreports, ?_⟩
  rw [plan_of_ne_nil hverifiers hroots]
  cases reports <;> rfl

/-- The least delay of the answers is when the run of the plan ends. -/
theorem moment_of_earliest {d : Nat} (h : Earliest w start verifiers roots d) (hd : d < limit) :
    (plan (start + limit) policy verifiers roots).moment w start = start + d := by
  obtain ⟨r, hr⟩ := h.reached
  have hmem := hr.mem_arrivals hd.le
  rw [moment_plan hverifiers hroots]
  rcases Scope.first_cases (start + limit) policy wellTimed_tasks with
    ⟨a, ha, hleast, -, -, hmoment⟩ | ⟨hlate, -, -⟩
  · rw [hmoment]
    have hle : a.instant ≤ start + d := hleast _ hmem
    rcases mem_arrivals_iff.mp ha with ⟨d', -, hr', hinstant⟩ | ⟨-, -, hinstant⟩
    · have := h.least d' _ hr'
      lia
    · lia
  · have hdeadline : start + limit ≤ start + d := (hlate _ hmem).2
    lia

end

theorem requests_plan : requests (Scope.calls
    ((plan (start + limit) policy verifiers roots).timelines w start)) =
      asked start verifiers roots := by
  by_cases hverifiers : verifiers = []
  · subst hverifiers
    simp [plan, Plan.done, Plan.timelines, Scope.calls, requests, asked]
  by_cases hroots : roots = []
  · subst hroots
    simp [plan, hverifiers, Plan.done, Plan.timelines, Scope.calls, requests, asked]
  have hcalls : ∀ position verifier,
      requests (ask roots (start + limit) position verifier w start).calls =
        [(.verify position roots, start)] := by
    intro position verifier
    obtain ⟨fate, hcalls⟩ := (w start (.verify position roots)).course_calls
      (.verify position roots) limit start
    rw [ask_eq, hcalls]
    rfl
  rw [timelines_plan hverifiers hroots, asked, if_neg (by simpa using hroots), requests,
    Scope.calls, List.flatMap_map, List.map_flatMap, tasks, List.mapIdx_eq_zipIdx_map,
    List.flatMap_map]
  show verifiers.zipIdx.flatMap (fun p =>
    requests (ask roots (start + limit) p.2 p.1 w start).calls) = _
  simp only [hcalls, ← List.map_eq_flatMap]
  rw [List.range_eq_range', ← List.zipIdx_map_snd 0 verifiers, List.map_map]
  rfl

/-- A report that decides settles the result, and without an answer before the limit there is no
success. -/
theorem outcome_of_deciding (hverifiers : verifiers ≠ []) (hroots : roots ≠ []) {r : Option Report}
    (h : Deciding w start limit verifiers roots r) :
    Outcome w start limit verifiers roots
      ((plan (start + limit) policy verifiers roots).moment w start) (verdict r) where
  unserved := fun hnil => absurd hnil hverifiers
  vacuous := fun _ hnil => absurd hnil hroots
  decided := by
    intro _ d hd hlt
    refine ⟨moment_of_earliest hverifiers hroots hd hlt, ?_⟩
    obtain ⟨r', hr'⟩ := hd.reached
    cases h with
    | answer hd' _ hr =>
      -- there is only one least delay
      obtain ⟨r'', hr''⟩ := hd'.reached
      rw [Nat.le_antisymm (hd'.least _ _ hr') (hd.least _ _ hr'')] at hr
      exact ⟨_, hr, settles_verdict _⟩
    | late hnone _ => exact absurd (hnone d r' hr') (Nat.not_le_of_lt hlt)
    | nobody hnone => exact absurd (hnone d r' hr') (Nat.not_le_of_lt hlt)
  undecided := by
    intro _ _ hnone
    cases h with
    | answer _ hd hr => exact absurd hd (Nat.not_le_of_lt (hnone _ _ hr))
    | late _ hlate => exact .inr ⟨_, hlate, rfl⟩
    | nobody _ => exact .inl rfl
  intime := moment_le hverifiers hroots

theorem outcome_of_admits {x : Result}
    (h : (plan (start + limit) policy verifiers roots).Admits w start x) :
    ∃ result, x = .verified result ∧ Outcome w start limit verifiers roots
      ((plan (start + limit) policy verifiers roots).moment w start) result := by
  by_cases hverifiers : verifiers = []
  · subst hverifiers
    obtain ⟨taken, -, rfl⟩ := h
    refine ⟨.error .noVerifiers, rfl, ?_⟩
    constructor
    case unserved => exact fun _ => ⟨rfl, rfl⟩
    case vacuous => exact fun hne => absurd rfl hne
    case decided =>
      rintro - d ⟨⟨r, position, hname, -⟩, -⟩
      cases hname
    case undecided => exact fun hne => absurd rfl hne
    case intime => exact Nat.le_add_right start limit
  by_cases hroots : roots = []
  · subst hroots
    obtain ⟨taken, -, rfl⟩ := h
    have hplan : plan (start + limit) policy verifiers [] = .done (.verified (.ok ())) := by
      simp [plan, hverifiers]
    rw [hplan]
    refine ⟨.ok (), rfl, ?_⟩
    constructor
    case unserved => exact fun hnil => absurd hnil hverifiers
    case vacuous => exact fun _ _ => ⟨rfl, rfl⟩
    case decided => exact fun hne => absurd rfl hne
    case undecided => exact fun _ hne => absurd rfl hne
    case intime => exact Nat.le_add_right start limit
  obtain ⟨r, hdeciding, rfl⟩ := deciding_of_admits hverifiers hroots h
  exact ⟨verdict r, rfl, outcome_of_deciding hverifiers hroots hdeciding⟩

/-! ## Verifications as a whole -/

/-- What a verification comes to that has the time for itself. -/
structure Concluded (w : World) (start : Instant) (limit : Nat) (verifiers : List String)
    (roots : List RootClaim) (r : Run (Except Failure Unit)) : Prop where
  outcome : Outcome w start limit verifiers roots r.moment.instant r.result
  calls : (requests r.allCalls).Perm (asked start verifiers roots)

/-- Where a verification may be at an instant: it has asked all that it asks, and it has not ended yet
or has come to its outcome. -/
structure Underway (w : World) (start : Instant) (limit : Nat) (verifiers : List String)
    (roots : List RootClaim) (now : Instant) (l : Live) : Prop where
  calls : requests (l.threads.flatMap Thread.calls) = asked start verifiers roots
  pending : l.ended = none → now ≤ start + limit
  result : ∀ instant x, l.ended = some (instant, x) → ∃ result, x = .verified result ∧
    Outcome w start limit verifiers roots instant result

variable (w start limit verifiers roots policy)

theorem brief_plan : (plan (start + limit) policy verifiers roots).Brief w start :=
  fun _ => length_calls_eq_one w start (start + limit) policy verifiers roots

/-- The result of the operation is one that its plan admits. -/
theorem admits_run : (plan (start + limit) policy verifiers roots).Admits w start
    (.verified (run w start verifiers roots (start + limit) policy).result) := by
  have hadmits := (plan (start + limit) policy verifiers roots).admits_run w start
  have hrun := plan_run w start (start + limit) policy verifiers roots
  simp only [Run.outcome, Prod.mk.injEq] at hrun
  rw [hrun.1] at hadmits
  exact hadmits

theorem concluded_run :
    Concluded w start limit verifiers roots (run w start verifiers roots (start + limit) policy) := by
  have hrun := plan_run w start (start + limit) policy verifiers roots
  simp only [Run.outcome, Prod.mk.injEq] at hrun
  obtain ⟨-, hinstant, hcalls⟩ := hrun
  constructor
  case outcome =>
    obtain ⟨result, hx, houtcome⟩ :=
      outcome_of_admits (admits_run w start limit verifiers roots policy)
    cases hx
    rw [Plan.moment, hinstant] at houtcome
    exact houtcome
  case calls =>
    have hperm := Plan.requests_run (brief_plan w start limit verifiers roots policy)
    rw [hcalls, requests_plan] at hperm
    exact hperm

theorem underway_of_alone {now : Instant} {l : Live}
    (h : Alone w (plan (start + limit) policy verifiers roots) start now l) :
    Underway w start limit verifiers roots now l := by
  have hfaithful := faithful_of_alone (brief_plan w start limit verifiers roots policy) h
  constructor
  case calls =>
    rw [h.requests_eq (length_calls_eq_one w start (start + limit) policy verifiers roots),
      requests_plan]
  case pending =>
    intro hopen
    obtain ⟨result, -, houtcome⟩ :=
      outcome_of_admits (admits_run w start limit verifiers roots policy)
    exact (hfaithful.intime hopen).trans houtcome.intime
  case result =>
    intro instant x hended
    obtain ⟨rfl, hadmits⟩ := hfaithful.result instant x hended
    exact outcome_of_admits hadmits

/-- The first answer decides a verification. However many verifiers there are, whatever they answer
and when, and whichever of them crash, each of them is asked once about the whole batch, and an
answer with the least delay settles the result if that is below the limit. It holds of the operation
as it runs, for every order in which its tasks may take their turns, and of every gateway. -/
theorem first_answer_decides :
    Concluded w start limit verifiers roots
      (run w start verifiers roots (start + limit) policy) ∧
    (∀ now l, Alone w (plan (start + limit) policy verifiers roots) start now l →
      Underway w start limit verifiers roots now l) ∧
    ∀ g : Gateway, g.connections.verifiers = verifiers → g.settings.limit .merkle = limit →
      Concluded w start limit verifiers roots (g.verify w start roots) := by
  refine ⟨concluded_run w start limit verifiers roots policy,
    fun now l h => underway_of_alone w start limit verifiers roots policy h, ?_⟩
  rintro g rfl rfl
  exact concluded_run w start _ _ roots g.settings.merkleStragglers

/-- What a verifier answers that cannot verify the second of two roots. -/
def doubt : BatchVerdict :=
  ⟨.unverifiable, [⟨"near", 1, none, .confirmed⟩, ⟨"far", 2, none, .unverifiable⟩]⟩

/-- Two verifiers that disagree, and the one that does not confirm is the quicker one. -/
def dissent : Script where
  verifiers := [{ name := "quick", verdict := .ok doubt, pace := { latency := 2 } },
    { name := "slow", pace := { latency := 9 } }]

/-- The slower verifier would have confirmed the batch. -/
theorem first_answer_refuses :
    let g := Gateway.withoutMiners {} dissent.connections
    let roots : List RootClaim := [⟨"near", 1⟩, ⟨"far", 2⟩]
    Earliest dissent.world 0 g.connections.verifiers roots 2 ∧
      (g.verify dissent.world 0 roots).result = .error (.rootsNotConfirmed ["far"]) ∧
      (g.verify dissent.world 0 roots).moment.instant = 2 := by
  intro g roots
  have hnames : g.connections.verifiers = ["quick", "slow"] := rfl
  have hquick : dissent.world 0 (.verify 0 roots) = .answer 2 (.ok doubt) := rfl
  have hslow : dissent.world 0 (.verify 1 roots) = .answer 9 (.ok ⟨.confirmed, []⟩) := rfl
  have hanswers : ∀ d r, Answers dissent.world 0 g.connections.verifiers roots d r →
      (d = 2 ∧ r = ⟨"quick", .ok doubt⟩) ∨ d = 9 := by
    rintro d ⟨name, reply⟩ ⟨position, hname, hanswer⟩
    rw [hnames] at hname
    match position with
    | 0 =>
      rw [hquick] at hanswer
      cases hname
      cases hanswer
      exact .inl ⟨rfl, rfl⟩
    | 1 =>
      rw [hslow] at hanswer
      cases hanswer
      exact .inr rfl
    | n + 2 => cases hname
  have hearliest : Earliest dissent.world 0 g.connections.verifiers roots 2 := by
    constructor
    · exact ⟨⟨"quick", .ok doubt⟩, 0, rfl, hquick⟩
    · intro d r hr
      rcases hanswers d r hr with ⟨rfl, -⟩ | rfl <;> decide
  obtain ⟨-, -, hgateway⟩ := first_answer_decides dissent.world 0 (g.settings.limit .merkle)
    g.connections.verifiers roots g.settings.merkleStragglers
  obtain ⟨hinstant, r, hr, hsettles⟩ :=
    (hgateway g rfl rfl).outcome.decided (List.cons_ne_nil _ _) 2 hearliest (by decide)
  refine ⟨hearliest, ?_, hinstant⟩
  obtain ⟨-, rfl⟩ := (hanswers 2 r hr).resolve_right (by decide)
  generalize (g.verify dissent.world 0 roots).result = result at hsettles ⊢
  cases hsettles with
  | confirmed h => cases h
  | refuted _ => decide

end Verification

end TxGateway
