import Mathlib.Data.List.Forall2
import Mathlib.Tactic.IntervalCases
import TxGateway.Operation.Search
import TxGateway.Proofs.Response
import TxGateway.Scripted

namespace TxGateway.Search

/-! # The walk of a search

A search in order walks along providers. Each look-up may use what the ones before it have left of
the time limit, so how far the walk comes depends on the sums of the delays.

* `inOrder_cons_of_hit`, `inOrder_cons_of_miss`, `inOrder_cons_of_late` and `inOrder_cons_of_crash`
  are the four ways in which a look-up ends.
* `Reach` tells how many look-ups are answered before the limit has passed.
* `inOrder_walk` is the closed form of a walk with fixed responses, by induction on the providers,
  and `search_closed_form` carries it over to the search of a gateway.
-/

open Activity

variable {id : String} {wanted : Inclusion} {deadline now : Instant} {w : World}
  {p : Provider} {ps rest : List Provider}

/-! ## One look-up -/

theorem inOrder_cons_of_late
    (h : ((deadline - now : Nat) : ℕ∞) < (p.sighting id w now).delay) :
    inOrder id wanted deadline (p :: rest) w now =
      ⟨[⟨p.lookUpCall id, now, now + (deadline - now), .late⟩], now + (deadline - now),
        some none⟩ := by
  have hcourse : p.lookUp id deadline w now =
      Response.dropped (p.lookUpCall id) (deadline - now) now := by
    rw [p.lookUp_eq, Response.course_of_lt h]
  unfold inOrder
  rw [bind_of_some (by rw [hcourse]; rfl), hcourse]
  rfl

theorem inOrder_cons_of_hit {d : Nat} {r : TxRecord}
    (h : p.sighting id w now = .answer d (.ok r)) (hd : d ≤ deadline - now)
    (hmet : wanted.metBy id r = true) : inOrder id wanted deadline (p :: rest) w now =
      ⟨[⟨p.lookUpCall id, now, now + d, .answered⟩], now + d, some (some r)⟩ := by
  have hcourse : p.lookUp id deadline w now =
      ⟨[⟨p.lookUpCall id, now, now + d, .answered⟩], now + d, some (some (.ok r))⟩ := by
    rw [p.lookUp_eq, h, Response.course_answer_of_le hd]
  unfold inOrder
  rw [bind_of_some (by rw [hcourse]), hcourse]
  simp only [hmet, if_true]
  rfl

/-- An answer that does not count leads on to the next provider. -/
theorem inOrder_cons_of_miss {d : Nat} {reply : Reply TxRecord}
    (h : p.sighting id w now = .answer d reply) (hd : d ≤ deadline - now)
    (hmiss : ∀ r, reply = .ok r → wanted.metBy id r = false) :
    inOrder id wanted deadline (p :: rest) w now =
      ⟨⟨p.lookUpCall id, now, now + d, .answered⟩ ::
          (inOrder id wanted deadline rest w (now + d)).calls,
        (inOrder id wanted deadline rest w (now + d)).finish,
        (inOrder id wanted deadline rest w (now + d)).value⟩ := by
  have hcourse : p.lookUp id deadline w now =
      ⟨[⟨p.lookUpCall id, now, now + d, .answered⟩], now + d, some (some reply)⟩ := by
    rw [p.lookUp_eq, h, Response.course_answer_of_le hd]
  rw [inOrder, bind_of_some (by rw [hcourse]), hcourse]
  cases reply with
  | error e => rfl
  | ok r =>
    simp only [hmiss r rfl]
    rfl

/-- A crash ends the whole search. -/
theorem inOrder_cons_of_crash {d : Nat} (h : p.sighting id w now = .crash d)
    (hd : d ≤ deadline - now) : inOrder id wanted deadline (p :: rest) w now =
      ⟨[⟨p.lookUpCall id, now, now + d, .crashed⟩], now + d, none⟩ := by
  have hcourse : p.lookUp id deadline w now =
      ⟨[⟨p.lookUpCall id, now, now + d, .crashed⟩], now + d, none⟩ := by
    rw [p.lookUp_eq, h, Response.course_crash_of_le hd]
  unfold inOrder
  rw [bind_of_none (by rw [hcourse]), hcourse]

/-- A reply that counts, or one that leads on. -/
theorem reaches_or_misses (wanted : Inclusion) (id : String) (reply : Reply TxRecord) :
    (∃ r, reply = .ok r ∧ wanted.metBy id r = true) ∨
      ∀ r, reply = .ok r → wanted.metBy id r = false := by
  by_cases h : ∃ r, reply = .ok r ∧ wanted.metBy id r = true
  · exact .inl h
  · right
    intro r hr
    apply Bool.eq_false_of_not_eq_true
    intro hmet
    exact h ⟨r, hr, hmet⟩

/-- A search that finds anything has an answer to its first look-up in time. -/
theorem answered_of_found {r : TxRecord}
    (h : (inOrder id wanted deadline (p :: rest) w now).value = some (some r)) :
    ∃ d reply, p.sighting id w now = .answer d reply ∧ d ≤ deadline - now := by
  have hlate : ¬ ((deadline - now : Nat) : ℕ∞) < (p.sighting id w now).delay := by
    intro hlt
    rw [inOrder_cons_of_late hlt] at h
    cases h
  cases hresponse : p.sighting id w now with
  | silence =>
    rw [hresponse] at hlate
    exact absurd (ENat.natCast_lt_top _) hlate
  | crash d =>
    rw [hresponse] at hlate
    have hd : d ≤ deadline - now := Nat.le_of_not_lt fun hlt => hlate (Nat.cast_lt.mpr hlt)
    rw [inOrder_cons_of_crash hresponse hd] at h
    cases h
  | answer d reply =>
    rw [hresponse] at hlate
    exact ⟨d, reply, rfl, Nat.le_of_not_lt fun hlt => hlate (Nat.cast_lt.mpr hlt)⟩

/-! ## The reach of a walk -/

/-- The look-ups at providers take fixed times and have fixed results, whenever they are made. -/
def Steady (w : World) (id : String) : List Provider → List (Response TxRecord) → Prop :=
  List.Forall₂ fun p r => ∀ now, p.sighting id w now = r

/-- How long the look-ups up to a position take, one after the other. -/
def elapsed (rs : List (Response TxRecord)) (position : Nat) : ℕ∞ :=
  ((rs.take (position + 1)).map Response.delay).sum

/-- The least position up to which the look-ups take longer than the limit, the number of all
look-ups if they never do. -/
structure Reach (limit : Nat) (rs : List (Response TxRecord)) (k : Nat) : Prop where
  le_length : k ≤ rs.length
  within : ∀ i < k, elapsed rs i ≤ limit
  beyond : k < rs.length → limit < elapsed rs k

theorem elapsed_zero (x : Response TxRecord) (rs : List (Response TxRecord)) :
    elapsed (x :: rs) 0 = x.delay := by
  simp [elapsed]

theorem elapsed_succ (x : Response TxRecord) (rs : List (Response TxRecord)) (i : Nat) :
    elapsed (x :: rs) (i + 1) = x.delay + elapsed rs i := by
  simp [elapsed]

theorem Reach.nil (limit : Nat) : Reach limit [] 0 :=
  ⟨Nat.le_refl _, fun i hi => absurd hi (Nat.not_lt_zero i), fun h => absurd h (Nat.lt_irrefl 0)⟩

theorem Reach.zero {limit : Nat} {x : Response TxRecord} (h : (limit : ℕ∞) < x.delay)
    (rs : List (Response TxRecord)) : Reach limit (x :: rs) 0 where
  le_length := Nat.zero_le _
  within := fun i hi => absurd hi (Nat.not_lt_zero i)
  beyond := fun _ => by rwa [elapsed_zero]

/-- What a look-up has used of the limit is missing for the ones after it. -/
theorem Reach.succ {limit d k : Nat} {x : Response TxRecord} {rs : List (Response TxRecord)}
    (hx : x.delay = d) (hd : d ≤ limit) (h : Reach (limit - d) rs k) :
    Reach limit (x :: rs) (k + 1) := by
  have hlimit : (limit : ℕ∞) = d + (limit - d : Nat) := by
    rw [← Nat.cast_add, Nat.add_sub_cancel' hd]
  refine ⟨Nat.succ_le_succ h.le_length, ?_, ?_⟩
  · intro i hi
    cases i with
    | zero =>
      rw [elapsed_zero, hx]
      exact Nat.cast_le.mpr hd
    | succ i =>
      rw [elapsed_succ, hx, hlimit]
      exact add_le_add_right (h.within i (Nat.lt_of_succ_lt_succ hi)) _
  · intro hk
    rw [elapsed_succ, hx, hlimit]
    exact (ENat.add_lt_add_iff_left (ENat.natCast_ne_top d)).mpr
      (h.beyond (Nat.lt_of_succ_lt_succ hk))

/-! ## The closed form -/

/-- `r` is what the look-up at a position shows, and those before it show nothing. -/
structure FirstShown (id : String) (wanted : Inclusion) (rs : List (Response TxRecord))
    (position : Nat) (r : TxRecord) : Prop where
  shown : ∃ x, rs[position]? = some x ∧ x.Shows id wanted r
  first : ∀ i < position, ∀ x, rs[i]? = some x → ∀ r', ¬ x.Shows id wanted r'

/-- No look-up before a position shows a record. -/
def NothingShown (id : String) (wanted : Inclusion) (rs : List (Response TxRecord))
    (position : Nat) : Prop :=
  ∀ i < position, ∀ x, rs[i]? = some x → ∀ r, ¬ x.Shows id wanted r

/-- How a walk ends: with the first record within reach, or with none, after the look-ups up to
there. -/
inductive Ends (id : String) (wanted : Inclusion) (ps : List Provider)
    (rs : List (Response TxRecord)) (k : Nat) (t : Timeline (Option TxRecord)) : Prop
  | found {j : Nat} {r : TxRecord} (hj : j < k) (hr : FirstShown id wanted rs j r)
      (hvalue : t.value = some (some r))
      (hcalls : t.calls.map CallTrace.call = (ps.take (j + 1)).map fun p => p.lookUpCall id)
  | missed (hnothing : NothingShown id wanted rs k) (hvalue : t.value = some none)
      (hcalls : t.calls.map CallTrace.call = (ps.take (k + 1)).map fun p => p.lookUpCall id)

theorem FirstShown.zero {x : Response TxRecord} {r : TxRecord} (h : x.Shows id wanted r)
    (rs : List (Response TxRecord)) : FirstShown id wanted (x :: rs) 0 r :=
  ⟨⟨x, rfl, h⟩, fun i hi => absurd hi (Nat.not_lt_zero i)⟩

theorem FirstShown.unique {rs : List (Response TxRecord)} {i j : Nat} {r r' : TxRecord}
    (h : FirstShown id wanted rs i r) (h' : FirstShown id wanted rs j r') : i = j ∧ r = r' := by
  obtain ⟨⟨x, hx, hshows⟩, hfirst⟩ := h
  obtain ⟨⟨x', hx', hshows'⟩, hfirst'⟩ := h'
  rcases Nat.lt_trichotomy i j with hlt | rfl | hlt
  · exact absurd hshows (hfirst' i hlt x hx r)
  · rw [hx] at hx'
    cases hx'
    obtain ⟨d, rfl, -⟩ := hshows
    obtain ⟨d', heq, -⟩ := hshows'
    cases heq
    exact ⟨rfl, rfl⟩
  · exact absurd hshows' (hfirst j hlt x' hx' r')

theorem FirstShown.provider {rs : List (Response TxRecord)} {j : Nat} {r : TxRecord}
    (h : FirstShown id wanted rs j r) (hsteady : Steady w id ps rs) :
    ∃ p, ps[j]? = some p ∧ r.provider = p.name := by
  obtain ⟨x, hx, d, rfl, -⟩ := h.shown
  obtain ⟨hj, hx⟩ := List.getElem?_eq_some_iff.mp hx
  have hlen : ps.length = rs.length := hsteady.length_eq
  have hp := hsteady.get (hlen ▸ hj) hj
  refine ⟨ps[j], List.getElem?_eq_getElem _, ?_⟩
  exact Provider.provider_of_sighting ((hp 0).trans hx)

theorem NothingShown.succ {x : Response TxRecord} {rs : List (Response TxRecord)} {j : Nat}
    (hx : ∀ r, ¬ x.Shows id wanted r) (h : NothingShown id wanted rs j) :
    NothingShown id wanted (x :: rs) (j + 1) := by
  intro i hi y hy
  cases i with
  | zero =>
    cases hy
    exact hx
  | succ i => exact h i (Nat.lt_of_succ_lt_succ hi) y hy

/-- A look-up that shows nothing puts the end of the walk one position further. -/
theorem Ends.succ {x : Response TxRecord} {rs : List (Response TxRecord)} {k d : Nat}
    {t : Timeline (Option TxRecord)} (hx : ∀ r, ¬ x.Shows id wanted r)
    (h : Ends id wanted rest rs k t) :
    Ends id wanted (p :: rest) (x :: rs) (k + 1)
      ⟨⟨p.lookUpCall id, now, now + d, .answered⟩ :: t.calls, t.finish, t.value⟩ := by
  cases h with
  | found hj hr hvalue hcalls =>
    obtain ⟨hshown, hfirst⟩ := hr
    exact .found (Nat.succ_lt_succ hj) ⟨hshown, NothingShown.succ hx hfirst⟩ hvalue
      (by simp [hcalls])
  | missed hnothing hvalue hcalls =>
    exact .missed (hnothing.succ hx) hvalue (by simp [hcalls])

/-- A walk whose look-ups take fixed times, have fixed results and do not crash ends with the
first record that it reaches. -/
theorem inOrder_walk {rs : List (Response TxRecord)} (hsteady : Steady w id ps rs)
    (hcrash : ∀ x ∈ rs, ¬ x.IsCrash) (wanted : Inclusion) (deadline now : Instant) :
    ∃ k, Reach (deadline - now) rs k ∧
      Ends id wanted ps rs k (inOrder id wanted deadline ps w now) := by
  -- along the providers; the instant at which the rest of the walk begins stays open
  induction hsteady generalizing now with
  | nil =>
    have hnothing : NothingShown id wanted [] 0 := fun i hi => absurd hi (Nat.not_lt_zero i)
    exact ⟨0, .nil _, .missed hnothing rfl rfl⟩
  | @cons p x rest rs hx hrest ih =>
    have hlate : ((deadline - now : Nat) : ℕ∞) < x.delay →
        ∃ k, Reach (deadline - now) (x :: rs) k ∧
          Ends id wanted (p :: rest) (x :: rs) k
            (inOrder id wanted deadline (p :: rest) w now) := by
      intro h
      refine ⟨0, .zero h rs, ?_⟩
      rw [inOrder_cons_of_late (by rwa [hx now])]
      exact .missed (fun i hi => absurd hi (Nat.not_lt_zero i)) rfl rfl
    cases x with
    | silence => exact hlate (ENat.natCast_lt_top _)
    | crash d => exact absurd ⟨d, rfl⟩ (hcrash _ List.mem_cons_self)
    | answer d reply =>
      by_cases hd : d ≤ deadline - now
      · -- the rest of the walk has what this look-up leaves of the limit
        have hleft : deadline - (now + d) = deadline - now - d := by lia
        obtain ⟨k, hreach, hends⟩ := ih (fun y hy => hcrash y (List.mem_cons_of_mem _ hy)) (now + d)
        rw [hleft] at hreach
        have hreach' : Reach (deadline - now) (.answer d reply :: rs) (k + 1) :=
          hreach.succ rfl hd
        refine ⟨k + 1, hreach', ?_⟩
        by_cases hshows : ∃ r, (Response.answer d reply).Shows id wanted r
        · obtain ⟨r, hr⟩ := hshows
          obtain ⟨d', heq, hmet⟩ := hr
          cases heq
          rw [inOrder_cons_of_hit (hx now) hd hmet]
          exact .found (Nat.succ_pos k) (.zero ⟨d, rfl, hmet⟩ rs) rfl rfl
        · have hnone : ∀ r, ¬ (Response.answer d reply).Shows id wanted r :=
            fun r hr => hshows ⟨r, hr⟩
          have hmiss : ∀ r, reply = .ok r → wanted.metBy id r = false := by
            intro r hr
            by_contra hmet
            exact hnone r ⟨d, by rw [hr], Bool.eq_true_of_not_eq_false hmet⟩
          rw [inOrder_cons_of_miss (hx now) hd hmiss]
          exact hends.succ hnone
      · exact hlate (Nat.cast_lt.mpr (Nat.lt_of_not_le hd))

/-- A gateway's search along providers with fixed responses: it finds the first record that is
shown within reach, having asked the providers up to there once each and in order, and if there is
none it fails, having asked all within reach and the one that was too slow. -/
theorem search_closed_form (g : Gateway) (w : World) (start : Instant) (limit : Nat)
    (id : String) (wanted : Inclusion) (rs : List (Response TxRecord))
    (hid : TxId.isLongEnough id = true) (hsteady : Steady w id (g.providers .query) rs)
    (hcrash : ∀ x ∈ rs, ¬ x.IsCrash) :
    ∃ k, Reach limit rs k ∧
      (∀ j r, j < k → FirstShown id wanted rs j r →
        (g.search w start id wanted limit).result = .ok r ∧
        (g.search w start id wanted limit).calls.map CallTrace.call =
          ((g.providers .query).take (j + 1)).map (fun p => p.lookUpCall id) ∧
        (g.search w start id wanted limit).stragglers = [] ∧
        ∃ p, (g.providers .query)[j]? = some p ∧ r.provider = p.name) ∧
      (NothingShown id wanted rs k →
        (g.search w start id wanted limit).result = .error .notFound ∧
        (g.search w start id wanted limit).calls.map CallTrace.call =
          ((g.providers .query).take (k + 1)).map (fun p => p.lookUpCall id) ∧
        (g.search w start id wanted limit).stragglers = []) := by
  have hsearch : g.search w start id wanted limit =
      ⟨Gateway.foundOr (inOrder id wanted (start + limit) (g.providers .query) w start).value.join,
        ⟨(inOrder id wanted (start + limit) (g.providers .query) w start).finish, false⟩,
        (inOrder id wanted (start + limit) (g.providers .query) w start).calls, []⟩ := by
    simp [Gateway.search, hid]
  obtain ⟨k, hreach, hends⟩ := inOrder_walk hsteady hcrash wanted (start + limit) start
  have hlimit : start + limit - start = limit := Nat.add_sub_cancel_left start limit
  rw [hlimit] at hreach
  refine ⟨k, hreach, ?_, ?_⟩
  · intro j r hj hr
    rw [hsearch]
    cases hends with
    | found hj' hr' hvalue hcalls =>
      obtain ⟨rfl, rfl⟩ := hr.unique hr'
      refine ⟨by simp [hvalue, Gateway.foundOr], hcalls, rfl, ?_⟩
      exact hr.provider hsteady
    | missed hnothing hvalue hcalls =>
      obtain ⟨x, hx, hshows⟩ := hr.shown
      exact absurd hshows (hnothing j hj x hx r)
  · intro hnothing
    rw [hsearch]
    cases hends with
    | found hj hr hvalue hcalls =>
      obtain ⟨x, hx, hshows⟩ := hr.shown
      exact absurd hshows (hnothing _ hj x hx _)
    | missed _ hvalue hcalls => exact ⟨by simp [hvalue, Gateway.foundOr], hcalls, rfl⟩

/-- An id for trials. -/
def trialId : String := "3b7f1a1c2e5d9f0a4b6c8d7e1f2a3b4c5d6e7f8091a2b3c4d5e6f708192a3b4c"

/-- Two explorers, of which the faster one refuses a transaction with questionable words, and only
the slower one knows it. -/
def twoExplorers : Script where
  explorer := some {
    name := "near"
    published := .error (.rejected "Missing inputs")
    pace := { latency := 3 } }
  secondaryExplorer :=
    some { name := "far", found := .ok ⟨trialId, "block", 1, 1⟩, pace := { latency := 4 } }

/-- The second look-up is answered at the very limit, and counts. -/
theorem search_finds_at_limit :
    let g := Gateway.withoutMiners {} twoExplorers.connections
    let rs := [.answer 3 (.error .notFound),
      .answer 4 (.ok (Provider.recordOfChain "far" ⟨trialId, "block", 1, 1⟩))]
    TxId.isLongEnough trialId = true ∧ Steady twoExplorers.world trialId (g.providers .query) rs ∧
      (∀ x ∈ rs, ¬ x.IsCrash) ∧
      (g.search twoExplorers.world 0 trialId .chain 7).result =
        .ok (Provider.recordOfChain "far" ⟨trialId, "block", 1, 1⟩) ∧
      (g.search twoExplorers.world 0 trialId .chain 7).calls.map CallTrace.call =
        [.find .explorer trialId, .find .secondaryExplorer trialId] := by
  intro g rs
  have hid : TxId.isLongEnough trialId = true := by decide
  have hsteady : Steady twoExplorers.world trialId (g.providers .query) rs :=
    .cons (fun _ => rfl) (.cons (fun _ => by cbv) .nil)
  have hcrash : ∀ x ∈ rs, ¬ x.IsCrash := by
    rintro x hx ⟨d, rfl⟩
    simp [rs] at hx
  obtain ⟨k, hreach, hfound, -⟩ :=
    search_closed_form g twoExplorers.world 0 7 trialId .chain rs hid hsteady hcrash
  have hk : 1 < k := by
    by_contra hk
    have hbeyond := hreach.beyond (by simp [rs]; omega)
    interval_cases k
    · have h : (7 : ℕ∞) < 3 := by simpa [rs, elapsed, Response.delay] using hbeyond
      norm_cast at h
    · have h : (7 : ℕ∞) < 3 + 4 := by simpa [rs, elapsed, Response.delay] using hbeyond
      norm_cast at h
  have hfirst : FirstShown trialId .chain rs 1
      (Provider.recordOfChain "far" ⟨trialId, "block", 1, 1⟩) := by
    refine ⟨⟨_, rfl, 4, rfl, by decide⟩, ?_⟩
    intro i hi x hx r hr
    interval_cases i
    cases hx
    obtain ⟨d, heq, -⟩ := hr
    cases heq
  obtain ⟨hresult, hcalls, -⟩ := hfound 1 _ hk hfirst
  exact ⟨hid, hsteady, hcrash, hresult, hcalls⟩

end TxGateway.Search
