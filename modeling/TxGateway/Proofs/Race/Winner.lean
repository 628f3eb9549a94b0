import TxGateway.Proofs.Arrivals
import TxGateway.Proofs.Contacts
import TxGateway.Proofs.Search.Walk

namespace TxGateway.Race

/-! # The winner of a race

All look-ups of a race begin together, so each of them has one response, with a delay of its own. A
record counts if it reaches the wanted inclusion. The race is won by a record that counts and has
the least delay, if that is below the limit, and it is lost when the last task has ended.

* `ask_eq` is the course of a task.
* `mem_arrivals_iff` tells what is delivered: the records that count and come within the limit.
* `race_won_by_fastest` is the outcome of a race of a gateway.
-/

open Activity

variable {w : World} {start : Instant} {id : String} {wanted : Inclusion} {limit : Nat}
  {p : Provider} {ps : List Provider}

/-- The provider's look-up is answered after some time with a record that reaches the wanted
inclusion. -/
def Counts (w : World) (start : Instant) (id : String) (wanted : Inclusion) (p : Provider)
    (delay : Nat) (r : TxRecord) : Prop :=
  p.sighting id w start = .answer delay (.ok r) ∧ wanted.metBy id r = true

/-- The least delay of the records that count. -/
structure Fastest (w : World) (start : Instant) (id : String) (wanted : Inclusion)
    (ps : List Provider) (delay : Nat) : Prop where
  reached : ∃ p ∈ ps, ∃ r, Counts w start id wanted p delay r
  least : ∀ p ∈ ps, ∀ d r, Counts w start id wanted p d r → delay ≤ d

/-! ## The course of a task -/

/-- What a task makes of the reply to its look-up. -/
def counted (id : String) (wanted : Inclusion) : Option (Reply TxRecord) → Option TxRecord
  | some (.ok r) => if wanted.metBy id r then some r else none
  | _ => none

theorem counted_eq_some {reply : Option (Reply TxRecord)} {r : TxRecord} :
    counted id wanted reply = some r ↔ reply = some (.ok r) ∧ wanted.metBy id r = true := by
  match reply with
  | none => simp [counted]
  | some (.error e) => simp [counted]
  | some (.ok r') =>
    simp only [counted, Option.ite_none_right_eq_some, Option.some.injEq, Except.ok.injEq]
    constructor
    · rintro ⟨hmet, rfl⟩
      exact ⟨rfl, hmet⟩
    · rintro ⟨rfl, hmet⟩
      exact ⟨hmet, rfl⟩

theorem ask_eq (id : String) (wanted : Inclusion) (limit : Nat) (p : Provider) (w : World)
    (start : Instant) :
    ask id wanted (start + limit) p w start =
      ⟨((p.sighting id w start).course (p.lookUpCall id) limit start).calls,
        start + (p.sighting id w start).duration limit,
        ((p.sighting id w start).course (p.lookUpCall id) limit start).value.map
          (counted id wanted)⟩ := by
  have hcourse : p.lookUp id (start + limit) w start =
      (p.sighting id w start).course (p.lookUpCall id) limit start := by
    rw [p.lookUp_eq, Nat.add_sub_cancel_left]
  have hask : ask id wanted (start + limit) p =
      (p.lookUp id (start + limit) >>= fun reply => pure (counted id wanted reply)) := by
    unfold ask
    congr 1
    funext reply
    match reply with
    | none => rfl
    | some (.error e) => rfl
    | some (.ok r) => rfl
  rw [hask, bind_pure_apply, hcourse, Response.course_finish]

/-- The tasks of a race. -/
def tasks (w : World) (start : Instant) (id : String) (wanted : Inclusion) (limit : Nat)
    (ps : List Provider) : List (Scope.Task TxRecord) :=
  ps.map fun p => ask id wanted (start + limit) p w start

theorem wellTimed_tasks : Scope.WellTimed start (tasks w start id wanted limit ps) := by
  intro t ht
  obtain ⟨p, -, rfl⟩ := List.mem_map.mp ht
  exact (makes_ask id wanted (start + limit) p).gapless w start

/-- A task delivers a record if and only if it counts and comes within the limit. -/
theorem ask_value_eq {r : TxRecord} :
    (ask id wanted (start + limit) p w start).value.join = some r ↔
      ∃ d ≤ limit, Counts w start id wanted p d r := by
  rw [ask_eq, Option.join_eq_some_iff, Option.map_eq_some_iff]
  constructor
  · rintro ⟨reply, hreply, hcounted⟩
    obtain ⟨rfl, hmet⟩ := counted_eq_some.mp hcounted
    obtain ⟨d, hd, h⟩ := Response.course_value_eq_reply.mp hreply
    exact ⟨d, hd, h, hmet⟩
  · rintro ⟨d, hd, h, hmet⟩
    exact ⟨some (.ok r), Response.course_value_eq_reply.mpr ⟨d, hd, h⟩,
      counted_eq_some.mpr ⟨rfl, hmet⟩⟩

theorem mem_arrivals_iff {a : Arrival TxRecord} :
    a ∈ Scope.arrivals start (tasks w start id wanted limit ps) ↔
      ∃ p ∈ ps, ∃ d ≤ limit, Counts w start id wanted p d a.value ∧ a.instant = start + d := by
  have hfinish : ∀ {p d r}, d ≤ limit → Counts w start id wanted p d r →
      (ask id wanted (start + limit) p w start).finish = start + d := by
    intro p d r hd h
    rw [ask_eq, h.1]
    simp [Response.duration, Nat.min_eq_left hd]
  rw [Scope.mem_arrivals wellTimed_tasks]
  constructor
  · rintro ⟨t, ht, hvalue, hinstant⟩
    obtain ⟨p, hp, rfl⟩ := List.mem_map.mp ht
    obtain ⟨d, hd, h⟩ := ask_value_eq.mp hvalue
    exact ⟨p, hp, d, hd, h, hinstant.symm.trans (hfinish hd h)⟩
  · rintro ⟨p, hp, d, hd, h, hinstant⟩
    refine ⟨_, List.mem_map.mpr ⟨p, hp, rfl⟩, ask_value_eq.mpr ⟨d, hd, h⟩, ?_⟩
    rw [hfinish hd h, hinstant]

/-! ## The outcome -/

theorem winner_of_fastest {d : Nat} (h : Fastest w start id wanted ps d) (hd : d < limit) :
    ∃ a, Scope.winner? start (start + limit) (tasks w start id wanted limit ps) = some a ∧
      a.instant = start + d ∧ ∃ p ∈ ps, Counts w start id wanted p d a.value := by
  obtain ⟨p, hp, r, hr⟩ := h.reached
  have hmem : ⟨start + d, r⟩ ∈ Scope.arrivals start (tasks w start id wanted limit ps) :=
    mem_arrivals_iff.mpr ⟨p, hp, d, hd.le, hr, rfl⟩
  obtain ⟨a, ha, hle, hwinner⟩ := Scope.winner?_eq_some wellTimed_tasks hmem
    (Nat.add_lt_add_left hd start)
  obtain ⟨q, hq, d', -, ha', hinstant⟩ := mem_arrivals_iff.mp ha
  -- the winner is no later than this arrival, and nothing that counts is earlier
  have hleast : d ≤ d' := h.least q hq d' _ ha'
  have heq : d' = d := by
    rw [hinstant] at hle
    exact Nat.le_antisymm (Nat.add_le_add_iff_left.mp hle) hleast
  rw [heq] at ha' hinstant
  exact ⟨a, hwinner, hinstant, q, hq, ha'⟩

theorem winner_of_none (h : ∀ p ∈ ps, ∀ d r, Counts w start id wanted p d r → limit < d) :
    Scope.winner? start (start + limit) (tasks w start id wanted limit ps) = none := by
  cases hwinner : Scope.winner? start (start + limit) (tasks w start id wanted limit ps) with
  | none => rfl
  | some a =>
    obtain ⟨p, hp, d, hd, ha, -⟩ := mem_arrivals_iff.mp (Scope.mem_of_winner?_eq hwinner)
    exact absurd hd (Nat.not_le_of_lt (h p hp d _ ha))

/-- How long the longest of the look-ups takes, when each of them is dropped at the limit. -/
def longest (w : World) (start : Instant) (id : String) (limit : Nat) (ps : List Provider) : Nat :=
  (ps.map fun p => (p.sighting id w start).duration limit).foldr max 0

/-- The last task of a race ends with the longest look-up. -/
theorem finish_tasks (ps : List Provider) :
    Scope.finish start (tasks w start id wanted limit ps) = start + longest w start id limit ps :=
  Scope.finish_map_eq (fun p => by rw [ask_eq]) ps

theorem longest_le (ps : List Provider) : longest w start id limit ps ≤ limit := by
  induction ps with
  | nil => exact Nat.zero_le _
  | cons p rest ih => exact Nat.max_le.mpr ⟨Response.duration_le _ _, ih⟩

variable (policy : Stragglers)

theorem run_result (ps : List Provider) :
    (run w start ps id wanted (start + limit) policy).result =
      (Scope.winner? start (start + limit) (tasks w start id wanted limit ps)).map
        Arrival.value := by
  rw [← Scope.first_result (start + limit) policy]
  rfl

theorem run_moment (ps : List Provider) :
    (run w start ps id wanted (start + limit) policy).moment =
      (Scope.first start (start + limit) policy (tasks w start id wanted limit ps)).moment := rfl

/-- A record that a race ends with has come from a provider within the limit, and counts. -/
theorem run_result_eq_some {r : TxRecord}
    (h : (run w start ps id wanted (start + limit) policy).result = some r) :
    ∃ p ∈ ps, ∃ d ≤ limit, Counts w start id wanted p d r := by
  rw [run_result] at h
  obtain ⟨a, hwinner, rfl⟩ := Option.map_eq_some_iff.mp h
  obtain ⟨p, hp, d, hd, ha, -⟩ := mem_arrivals_iff.mp (Scope.mem_of_winner?_eq hwinner)
  exact ⟨p, hp, d, hd, ha⟩

theorem run_of_fastest {d : Nat} (h : Fastest w start id wanted ps d) (hd : d < limit) :
    ∃ p ∈ ps, ∃ r, Counts w start id wanted p d r ∧
      (run w start ps id wanted (start + limit) policy).result = some r ∧
      (run w start ps id wanted (start + limit) policy).moment.instant = start + d := by
  obtain ⟨a, hwinner, hinstant, p, hp, ha⟩ := winner_of_fastest h hd
  refine ⟨p, hp, a.value, ha, ?_, ?_⟩
  · rw [run_result, hwinner, Option.map_some]
  · rw [run_moment, Scope.first_moment, hwinner]
    exact hinstant

theorem run_of_none (h : ∀ p ∈ ps, ∀ d r, Counts w start id wanted p d r → limit < d) :
    (run w start ps id wanted (start + limit) policy).result = none ∧
      (run w start ps id wanted (start + limit) policy).moment.instant =
        start + longest w start id limit ps := by
  have hwinner := winner_of_none h
  constructor
  · rw [run_result, hwinner, Option.map_none]
  · rw [run_moment, Scope.first_moment, hwinner]
    show (Scope.givenUp _ _ _).instant = _
    have hfinish : Scope.finish start (tasks w start id wanted limit ps) ≤ start + limit := by
      rw [finish_tasks]
      exact Nat.add_le_add_left (longest_le ps) start
    rw [Scope.givenUp_instant hfinish, finish_tasks]

/-- The race of a gateway ends with a record that counts as soon as the first one has come, whatever
the other providers answer, and if none comes within the limit it is lost as soon as no look-up is
open any more. -/
theorem race_won_by_fastest (g : Gateway) (w : World) (start : Instant) (id : String)
    (wanted : Inclusion) (limit : Nat) (hid : TxId.isLongEnough id = true) :
    (∀ r, (g.race w start id wanted limit).result = .ok r → wanted.metBy id r = true) ∧
    (∀ d, Fastest w start id wanted (g.providers .query) d → d < limit →
      ∃ p ∈ g.providers .query, ∃ r, Counts w start id wanted p d r ∧
        (g.race w start id wanted limit).result = .ok r ∧
        (g.race w start id wanted limit).moment.instant = start + d) ∧
    ((∀ p ∈ g.providers .query, ∀ d r, Counts w start id wanted p d r → limit < d) →
      (g.race w start id wanted limit).result = .error .notFound ∧
      (g.race w start id wanted limit).moment.instant =
        start + longest w start id limit (g.providers .query)) := by
  have hrace : g.race w start id wanted limit =
      (run w start (g.providers .query) id wanted (start + limit)
        g.settings.raceStragglers).map Gateway.foundOr := by
    simp [Gateway.race, hid]
  rw [hrace]
  refine ⟨?_, ?_, ?_⟩
  · intro r hr
    have hfound : (run w start (g.providers .query) id wanted (start + limit)
        g.settings.raceStragglers).result = some r := by
      cases h : (run w start (g.providers .query) id wanted (start + limit)
          g.settings.raceStragglers).result with
      | none => simp [Run.map, h, Gateway.foundOr] at hr
      | some x => simpa [Run.map, h, Gateway.foundOr] using hr
    obtain ⟨p, -, d, -, hcounts⟩ := run_result_eq_some _ hfound
    exact hcounts.2
  · intro d hfastest hd
    obtain ⟨p, hp, r, hcounts, hresult, hinstant⟩ := run_of_fastest g.settings.raceStragglers
      hfastest hd
    exact ⟨p, hp, r, hcounts, by simp [Run.map, hresult, Gateway.foundOr], hinstant⟩
  · intro hnone
    obtain ⟨hresult, hinstant⟩ := run_of_none g.settings.raceStragglers hnone
    exact ⟨by simp [Run.map, hresult, Gateway.foundOr], hinstant⟩

/-- The nearer explorer answers first but does not know the transaction, so the race goes on. -/
theorem race_won_after_a_miss :
    let g := Gateway.withoutMiners {} Search.twoExplorers.connections
    let w := Search.twoExplorers.world
    TxId.isLongEnough Search.trialId = true ∧
      Fastest w 0 Search.trialId .chain (g.providers .query) 4 ∧
      ∃ p ∈ g.providers .query, ∃ r, Counts w 0 Search.trialId .chain p 4 r ∧
        (g.race w 0 Search.trialId .chain 7).result = .ok r ∧
        (g.race w 0 Search.trialId .chain 7).moment.instant = 4 := by
  intro g w
  have hid : TxId.isLongEnough Search.trialId = true := by decide
  have hproviders : g.providers .query =
      [.outlet .explorer "near", .outlet .secondaryExplorer "far"] := by decide
  have hnear : Provider.sighting (.outlet .explorer "near") Search.trialId w 0 =
      .answer 3 (.error .notFound) := rfl
  have hfar : Provider.sighting (.outlet .secondaryExplorer "far") Search.trialId w 0 =
      .answer 4 (.ok (Provider.recordOfChain "far" ⟨Search.trialId, "block", 1, 1⟩)) := by cbv
  have hfastest : Fastest w 0 Search.trialId .chain (g.providers .query) 4 := by
    rw [hproviders]
    constructor
    · exact ⟨_, by simp, _, hfar, by decide⟩
    · rintro p hp d r ⟨hsighting, -⟩
      simp only [List.mem_cons, List.not_mem_nil, or_false] at hp
      rcases hp with rfl | rfl
      · rw [hnear] at hsighting
        cases hsighting
      · rw [hfar] at hsighting
        cases hsighting
        exact Nat.le_refl 4
  obtain ⟨-, hwon, -⟩ := race_won_by_fastest g w 0 Search.trialId .chain 7 hid
  exact ⟨hid, hfastest, hwon 4 hfastest (by decide)⟩

end TxGateway.Race
