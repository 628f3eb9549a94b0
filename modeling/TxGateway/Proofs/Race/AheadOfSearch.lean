import TxGateway.Proofs.Race.Winner

namespace TxGateway

/-! # A race is ahead of a search

A search waits for one provider after the other, a race for all of them at once. So a record that a
search ends with has been there for a race no later, and the race is won by it or by one before it.
The one exception is a record that takes all of the limit by itself: a search hears an answer at the
very deadline, and a race does not.

* `Search.inOrder_found` tells what a search has waited for when it ends with a record.
* `Race.run_ahead_of_inOrder` compares the two for any list of providers.
* `Race.race_finds_what_search_finds` compares the two operations of a gateway.
-/

variable {id : String} {wanted : Inclusion} {deadline now start : Instant} {limit d : Nat}
  {w : World} {ps : List Provider} {rs : List (Response TxRecord)} {r : TxRecord}

namespace Search

/-- The record at a position, with the time that its provider takes by itself. -/
def Supplies (id : String) (wanted : Inclusion) (rs : List (Response TxRecord)) (position d : Nat)
    (r : TxRecord) : Prop :=
  FirstShown id wanted rs position r ∧ rs[position]? = some (.answer d (.ok r))

theorem Supplies.zero (hmet : wanted.metBy id r = true) (rs : List (Response TxRecord)) :
    Supplies id wanted (.answer d (.ok r) :: rs) 0 d r :=
  ⟨.zero ⟨d, rfl, hmet⟩ rs, rfl⟩

theorem Supplies.succ {x : Response TxRecord} {position : Nat}
    (hx : ∀ r', ¬ x.Shows id wanted r') (h : Supplies id wanted rs position d r) :
    Supplies id wanted (x :: rs) (position + 1) d r :=
  ⟨⟨h.1.shown, NothingShown.succ hx h.1.first⟩, h.2⟩

/-- A search that ends with a record has waited for the provider of the record at least, within what
was left of the limit. -/
theorem inOrder_found (hsteady : Steady w id ps rs)
    (h : (inOrder id wanted deadline ps w now).value = some (some r)) :
    ∃ position d, Supplies id wanted rs position d r ∧ d ≤ deadline - now ∧
      now + d ≤ (inOrder id wanted deadline ps w now).finish := by
  -- along the providers; the instant at which the rest of the search begins stays open
  induction hsteady generalizing now with
  | nil => cases h
  | @cons p x rest rs hx hrest ih =>
    obtain ⟨d, reply, hp, hd⟩ := answered_of_found h
    obtain rfl : .answer d reply = x := hp.symm.trans (hx now)
    rcases reaches_or_misses wanted id reply with ⟨r', rfl, hmet⟩ | hmiss
    · rw [inOrder_cons_of_hit hp hd hmet] at h ⊢
      cases h
      exact ⟨0, d, .zero hmet rs, hd, Nat.le_refl _⟩
    · have hnone : ∀ r', ¬ (Response.answer d reply).Shows id wanted r' := by
        rintro r' ⟨d', heq, hmet⟩
        cases heq
        rw [hmiss r' rfl] at hmet
        cases hmet
      rw [inOrder_cons_of_miss hp hd hmiss] at h ⊢
      obtain ⟨position, d', hsupplies, hd', hfinish⟩ := ih h
      have hlater : now + d' ≤ now + d + d' := by lia
      exact ⟨position + 1, d', hsupplies.succ hnone, by lia, hlater.trans hfinish⟩

end Search

namespace Race

open Search

/-- A provider that supplies a record to a search has one that counts in a race. -/
theorem Counts.of_supplies {position : Nat} (hsteady : Steady w id ps rs)
    (h : Supplies id wanted rs position d r) (start : Instant) :
    ∃ p ∈ ps, Counts w start id wanted p d r := by
  obtain ⟨hfirst, hresponse⟩ := h
  obtain ⟨hposition, hresponse⟩ := List.getElem?_eq_some_iff.mp hresponse
  have hlength : ps.length = rs.length := hsteady.length_eq
  have hsighting := hsteady.get (hlength ▸ hposition) hposition start
  obtain ⟨x, hx, d', rfl, hmet⟩ := hfirst.shown
  refine ⟨ps[position], List.getElem_mem _, ?_, hmet⟩
  exact hsighting.trans hresponse

theorem exists_fastest {p : Provider} (hp : p ∈ ps) (h : Counts w start id wanted p d r) :
    ∃ least ≤ d, Fastest w start id wanted ps least := by
  classical
  have hex : ∃ n, ∃ q ∈ ps, ∃ r', Counts w start id wanted q n r' := ⟨d, p, hp, r, h⟩
  exact ⟨Nat.find hex, Nat.find_min' hex ⟨p, hp, r, h⟩, Nat.find_spec hex,
    fun q hq n r' hr' => Nat.find_min' hex ⟨q, hq, r', hr'⟩⟩

/-- Where a search ends with a record whose provider leaves some of the limit, a race is won, and no
later. -/
theorem run_ahead_of_inOrder (hsteady : Steady w id ps rs) (policy : Stragglers)
    (h : (inOrder id wanted (start + limit) ps w start).value = some (some r)) :
    ∃ position d, Supplies id wanted rs position d r ∧ d ≤ limit ∧
      (d < limit → ∃ r', (run w start ps id wanted (start + limit) policy).result = some r' ∧
        (run w start ps id wanted (start + limit) policy).moment.instant ≤
          (inOrder id wanted (start + limit) ps w start).finish) := by
  obtain ⟨position, d, hsupplies, hd, hfinish⟩ := inOrder_found hsteady h
  refine ⟨position, d, hsupplies, by lia, fun hlt => ?_⟩
  obtain ⟨p, hp, hcounts⟩ := Counts.of_supplies hsteady hsupplies start
  obtain ⟨least, hleast, hfastest⟩ := exists_fastest hp hcounts
  obtain ⟨-, -, r', -, hresult, hinstant⟩ :=
    run_of_fastest policy hfastest (hleast.trans_lt hlt)
  refine ⟨r', hresult, ?_⟩
  rw [hinstant]
  exact (Nat.add_le_add_left hleast start).trans hfinish

/-- A race of a gateway finds a transaction wherever a search from the same state does, and no later,
if the provider that the search ends with does not take the whole limit for itself. So if a race finds
nothing, then a search finds nothing either, or ends with an answer at the very limit. -/
theorem race_finds_what_search_finds (g : Gateway) (w : World) (start : Instant) (id : String)
    (wanted : Inclusion) (limit : Nat) (rs : List (Response TxRecord))
    (hsteady : Steady w id (g.providers .query) rs) :
    let search := g.search w start id wanted limit
    let race := g.race w start id wanted limit
    (∀ r, search.result = .ok r → ∃ position d, Supplies id wanted rs position d r ∧
      (∃ p, (g.providers .query)[position]? = some p ∧ r.provider = p.name) ∧ d ≤ limit ∧
      (d < limit → ∃ r', race.result = .ok r' ∧
        race.moment.instant ≤ search.moment.instant)) ∧
    (race.result = .error .notFound → search.result = .error .notFound ∨
      ∃ r position, search.result = .ok r ∧ Supplies id wanted rs position limit r) := by
  intro search race
  cases hid : TxId.isLongEnough id with
  | false =>
    -- neither of them begins
    have hsearch : search.result = .error .shortId := by simp [search, Gateway.search, hid, Run.done]
    have hrace : race.result = .error .shortId := by simp [race, Gateway.race, hid, Run.done]
    rw [hsearch, hrace]
    constructor
    · intro r hr
      cases hr
    · intro hlost
      cases hlost
  | true =>
    have hsearch : search = ⟨Gateway.foundOr (inOrder id wanted (start + limit)
        (g.providers .query) w start).value.join, ⟨(inOrder id wanted (start + limit)
        (g.providers .query) w start).finish, false⟩, (inOrder id wanted (start + limit)
        (g.providers .query) w start).calls, []⟩ := by
      simp [search, Gateway.search, hid]
    have hrace : race = (run w start (g.providers .query) id wanted (start + limit)
        g.settings.raceStragglers).map Gateway.foundOr := by
      simp [race, Gateway.race, hid]
    have hahead : ∀ r, search.result = .ok r → ∃ position d,
        Supplies id wanted rs position d r ∧
        (∃ p, (g.providers .query)[position]? = some p ∧ r.provider = p.name) ∧ d ≤ limit ∧
        (d < limit → ∃ r', race.result = .ok r' ∧
          race.moment.instant ≤ search.moment.instant) := by
      intro r hr
      rw [hsearch] at hr
      have hfound := Option.join_eq_some_iff.mp (Gateway.foundOr_eq_ok.mp hr)
      obtain ⟨position, d, hsupplies, hd, hwon⟩ :=
        run_ahead_of_inOrder hsteady g.settings.raceStragglers hfound
      refine ⟨position, d, hsupplies, hsupplies.1.provider hsteady, hd, fun hlt => ?_⟩
      obtain ⟨r', hresult, hinstant⟩ := hwon hlt
      rw [hrace, hsearch]
      exact ⟨r', by rw [Run.map, hresult]; rfl, hinstant⟩
    refine ⟨hahead, fun hlost => ?_⟩
    cases hresult : search.result with
    | error f =>
      left
      rw [hsearch] at hresult
      rw [(Gateway.foundOr_eq_error.mp hresult).2]
    | ok r =>
      right
      obtain ⟨position, d, hsupplies, -, hd, hwon⟩ := hahead r hresult
      -- a provider that leaves some of the limit would have won the race
      have hlimit : d = limit := by
        by_contra hne
        obtain ⟨r', hr', -⟩ := hwon (by lia)
        rw [hlost] at hr'
        cases hr'
      exact ⟨r, position, rfl, hlimit ▸ hsupplies⟩

/-- Of two explorers only the slower one knows the transaction. The search has to wait for both, and
the race for the slower one alone. -/
theorem race_finds_before_search :
    let g := Gateway.withoutMiners {} twoExplorers.connections
    let rs := [.answer 3 (.error .notFound),
      .answer 4 (.ok (Provider.recordOfChain "far" ⟨trialId, "block", 1, 1⟩))]
    let search := g.search twoExplorers.world 0 trialId .chain 7
    let race := g.race twoExplorers.world 0 trialId .chain 7
    Steady twoExplorers.world trialId (g.providers .query) rs ∧
      search.result = .ok (Provider.recordOfChain "far" ⟨trialId, "block", 1, 1⟩) ∧
      search.moment.instant = 7 ∧ ∃ r, race.result = .ok r ∧ race.moment.instant ≤ 7 := by
  intro g rs search race
  have hsteady : Steady twoExplorers.world trialId (g.providers .query) rs :=
    .cons (fun _ => rfl) (.cons (fun _ => by cbv) .nil)
  have hproviders : g.providers .query =
      [.outlet .explorer "near", .outlet .secondaryExplorer "far"] := by decide
  have hfar : Provider.sighting (.outlet .secondaryExplorer "far") trialId twoExplorers.world 3 =
      .answer 4 (.ok (Provider.recordOfChain "far" ⟨trialId, "block", 1, 1⟩)) := by cbv
  have hcourse : inOrder trialId .chain 7 (g.providers .query) twoExplorers.world 0 =
      ⟨[⟨.find .explorer trialId, 0, 3, .answered⟩,
        ⟨.find .secondaryExplorer trialId, 3, 7, .answered⟩], 7,
        some (some (Provider.recordOfChain "far" ⟨trialId, "block", 1, 1⟩))⟩ := by
    have hnear : Provider.sighting (.outlet .explorer "near") trialId twoExplorers.world 0 =
        .answer 3 (.error .notFound) := rfl
    rw [hproviders, inOrder_cons_of_miss hnear (by decide) (by simp),
      inOrder_cons_of_hit hfar (by decide) (by decide)]
    rfl
  have hid : TxId.isLongEnough trialId = true := by decide
  have hsearch : search.result = .ok (Provider.recordOfChain "far" ⟨trialId, "block", 1, 1⟩) := by
    simp [search, Gateway.search, hid, hcourse, Gateway.foundOr]
  have hinstant : search.moment.instant = 7 := by
    simp [search, Gateway.search, hid, hcourse]
  obtain ⟨hahead, -⟩ :=
    race_finds_what_search_finds g twoExplorers.world 0 trialId .chain 7 rs hsteady
  obtain ⟨position, d, ⟨-, hresponse⟩, -, -, hwon⟩ := hahead _ hsearch
  have hd : d = 4 := by
    rcases position with _ | _ | position
    · cases hresponse
    · cases hresponse
      rfl
    · cases hresponse
  obtain ⟨r, hr, hle⟩ := hwon (by lia)
  exact ⟨hsteady, hsearch, hinstant, r, hr, hle.trans_eq hinstant⟩

end Race

end TxGateway
