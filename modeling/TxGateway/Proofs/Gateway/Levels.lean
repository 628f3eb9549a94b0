import TxGateway.Proofs.Contacts
import TxGateway.Proofs.Race.AheadOfSearch

namespace TxGateway

/-! # Levels of inclusion

What a record shows of the chain it shows of the mempool too, if it names the transaction that was
asked for. A query that wants the mempool stops at the first record that is enough for it, perhaps
before the one that the chain needs. So it may ask fewer providers, and it is never behind.

* `Inclusion.mempool_of_chain` compares the levels for one record.
* `Search.inOrder_no_later` and `Race.run_no_later` compare two queries along any providers, by a
  level that implies another one.
* `mempool_query_no_later` compares the queries of a gateway.
-/

variable {w : World} {id : String} {strong weak wanted : Inclusion} {deadline now start : Instant}
  {limit : Nat} {ps : List Provider} {r : TxRecord}

theorem Inclusion.mempool_of_chain (hid : r.id = id) (h : Inclusion.chain.metBy id r = true) :
    Inclusion.mempool.metBy id r = true := by
  rcases metBy_chain_iff.mp h with ⟨hblock, -⟩
  exact metBy_mempool_iff.mpr ⟨hid, .inr hblock⟩

/-- Every record that a look-up brings names the transaction. -/
def Echoes (w : World) (id : String) (ps : List Provider) : Prop :=
  ∀ p ∈ ps, ∀ now d r, p.sighting id w now = .answer d (.ok r) → r.id = id

/-- A record that a look-up brings reaches one level only if it reaches the other. -/
def Implied (w : World) (id : String) (ps : List Provider) (strong weak : Inclusion) : Prop :=
  ∀ p ∈ ps, ∀ now d r, p.sighting id w now = .answer d (.ok r) →
    strong.metBy id r = true → weak.metBy id r = true

theorem Echoes.implied (h : Echoes w id ps) : Implied w id ps .chain .mempool := by
  intro p hp now d r hsighting hchain
  exact Inclusion.mempool_of_chain (h p hp now d r hsighting) hchain

/-! ## Searches -/

namespace Search

/-- Where a search ends: the providers up to the position have been asked, and the one at the
position answers with the record just then. -/
structure EndsAt (w : World) (id : String) (ps : List Provider) (calls : List CallTrace)
    (finish : Instant) (position : Nat) (r : TxRecord) : Prop where
  asked : calls.map CallTrace.call = (ps.take (position + 1)).map fun p => p.lookUpCall id
  answered : ∃ p began d, ps[position]? = some p ∧
    p.sighting id w began = .answer d (.ok r) ∧ finish = began + d

variable {p : Provider} {rest : List Provider} {calls : List CallTrace} {finish : Instant}
  {c : CallTrace}

theorem EndsAt.zero {d : Nat} (hc : c.call = p.lookUpCall id)
    (h : p.sighting id w now = .answer d (.ok r)) :
    EndsAt w id (p :: rest) [c] (now + d) 0 r :=
  ⟨by simp [hc], p, now, d, rfl, h, rfl⟩

theorem EndsAt.succ {position : Nat} (hc : c.call = p.lookUpCall id)
    (h : EndsAt w id rest calls finish position r) :
    EndsAt w id (p :: rest) (c :: calls) finish (position + 1) r where
  asked := by rw [List.map_cons, h.asked, hc, List.take_succ_cons, List.map_cons]
  answered := h.answered

/-- The calls show where a search has ended. -/
theorem EndsAt.unique {i j : Nat} {r' : TxRecord} (hi : EndsAt w id ps calls finish i r)
    (hj : EndsAt w id ps calls finish j r') : i = j := by
  have hlength : ∀ {k : Nat} {x : TxRecord}, EndsAt w id ps calls finish k x →
      calls.length = k + 1 := by
    intro k x h
    rcases h.answered with ⟨p, _, _, hp, _⟩
    have hk : k < ps.length := (List.getElem?_eq_some_iff.mp hp).1
    have hcalls := congrArg List.length h.asked
    rw [List.length_map, List.length_map, List.length_take] at hcalls
    omega
  have hi := hlength hi
  have hj := hlength hj
  omega

/-- Two searches along the same providers go the same way, up to where the weaker level is reached.
The one for the stronger level may go on from there. -/
theorem inOrder_no_later (himplied : Implied w id ps strong weak)
    (hfound : (inOrder id strong deadline ps w now).value = some (some r)) :
    ∃ i j r', EndsAt w id ps (inOrder id strong deadline ps w now).calls
        (inOrder id strong deadline ps w now).finish j r ∧
      (inOrder id weak deadline ps w now).value = some (some r') ∧
      EndsAt w id ps (inOrder id weak deadline ps w now).calls
        (inOrder id weak deadline ps w now).finish i r' ∧
      i ≤ j ∧
      (inOrder id weak deadline ps w now).finish ≤
        (inOrder id strong deadline ps w now).finish := by
  -- along the providers; both searches reach the next one at the same instant
  induction ps generalizing now with
  | nil => cases hfound
  | cons p rest ih =>
    have hrest : Implied w id rest strong weak :=
      fun q hq => himplied q (List.mem_cons_of_mem p hq)
    rcases answered_of_found hfound with ⟨d, reply, hp, hd⟩
    rcases reaches_or_misses strong id reply with ⟨r₁, rfl, hstrong⟩ | hmiss
    · have hweak := himplied p List.mem_cons_self now d r₁ hp hstrong
      rw [inOrder_cons_of_hit hp hd hstrong] at hfound ⊢
      rw [inOrder_cons_of_hit hp hd hweak]
      cases hfound
      exact ⟨0, 0, r, .zero rfl hp, rfl, .zero rfl hp, Nat.le_refl 0, Nat.le_refl _⟩
    · rw [inOrder_cons_of_miss hp hd hmiss] at hfound ⊢
      rcases ih hrest hfound with ⟨i, j, r', hj, hfound', hi, hij, hfinish⟩
      rcases reaches_or_misses weak id reply with ⟨r₁, rfl, hweak⟩ | hmiss'
      · -- the weaker level is reached here, and the time of the other search runs on
        rw [inOrder_cons_of_hit hp hd hweak]
        have hlater := (makes_inOrder id strong deadline rest).gapless w (now + d)
        exact ⟨0, j + 1, r₁, hj.succ rfl, rfl, .zero rfl hp, Nat.zero_le _, hlater.le⟩
      · rw [inOrder_cons_of_miss hp hd hmiss']
        exact ⟨i + 1, j + 1, r', hj.succ rfl, hfound', hi.succ rfl, Nat.succ_le_succ hij, hfinish⟩

end Search

/-! ## Races -/

/-- The record that wins a race for the stronger level is enough for the weaker one, so a race for
that is won by it or by one before it. -/
theorem Race.run_no_later (policy : Stragglers) (himplied : Implied w id ps strong weak)
    (hfound : (run w start ps id strong (start + limit) policy).result = some r)
    (hbefore : (run w start ps id strong (start + limit) policy).moment.instant < start + limit) :
    ∃ r', (run w start ps id weak (start + limit) policy).result = some r' ∧
      (run w start ps id weak (start + limit) policy).moment.instant ≤
        (run w start ps id strong (start + limit) policy).moment.instant := by
  rw [run_result] at hfound
  rcases Option.map_eq_some_iff.mp hfound with ⟨a, hwinner, rfl⟩
  have hmoment : (run w start ps id strong (start + limit) policy).moment.instant = a.instant := by
    rw [run_moment, Scope.first_moment, hwinner]
  rcases mem_arrivals_iff.mp (Scope.mem_of_winner?_eq hwinner) with ⟨p, hp, d, -, hcounts, hinstant⟩
  rw [hmoment, hinstant] at hbefore ⊢
  have hweak : Counts w start id weak p d a.value :=
    ⟨hcounts.1, himplied p hp start d a.value hcounts.1 hcounts.2⟩
  rcases exists_fastest hp hweak with ⟨least, hleast, hfastest⟩
  have hlimit : least < limit := hleast.trans_lt (Nat.lt_of_add_lt_add_left hbefore)
  rcases run_of_fastest policy hfastest hlimit with ⟨-, -, r', -, hresult, hearlier⟩
  refine ⟨r', hresult, ?_⟩
  rw [hearlier]
  exact Nat.add_le_add_left hleast start

/-! ## Queries -/

/-- Where records name the transaction that was asked for, a search for the chain that ends with a
record at some position has its counterpart for the mempool, which ends with a record at that
position or before it and no later. The same is true of the instants of two races, if the one for
the chain is won before the limit. -/
theorem mempool_query_no_later (g : Gateway) (w : World) (start : Instant) (id : String)
    (limit : Nat) (hechoes : Echoes w id (g.providers .query)) :
    let ps := g.providers .query
    let chainSearch := g.search w start id .chain limit
    let mempoolSearch := g.search w start id .mempool limit
    let chainRace := g.race w start id .chain limit
    let mempoolRace := g.race w start id .mempool limit
    (∀ r, chainSearch.result = .ok r →
      ∃ j, Search.EndsAt w id ps chainSearch.calls chainSearch.moment.instant j r) ∧
    (∀ j r, chainSearch.result = .ok r →
      Search.EndsAt w id ps chainSearch.calls chainSearch.moment.instant j r →
      ∃ i ≤ j, ∃ r', mempoolSearch.result = .ok r' ∧
        Search.EndsAt w id ps mempoolSearch.calls mempoolSearch.moment.instant i r' ∧
        mempoolSearch.moment.instant ≤ chainSearch.moment.instant) ∧
    ∀ r, chainRace.result = .ok r → chainRace.moment.instant < start + limit →
      ∃ r', mempoolRace.result = .ok r' ∧
        mempoolRace.moment.instant ≤ chainRace.moment.instant := by
  intro ps chainSearch mempoolSearch chainRace mempoolRace
  refine ⟨?_, ?_, ?_⟩
  · intro r hr
    rcases Gateway.search_eq_ok.mp hr with ⟨hid, hfound⟩
    rcases Search.inOrder_no_later hechoes.implied hfound with ⟨_, j, _, hj, _⟩
    refine ⟨j, ?_⟩
    rw [show chainSearch = _ from Gateway.search_of_long hid]
    exact hj
  · intro j r hr hj
    rcases Gateway.search_eq_ok.mp hr with ⟨hid, hfound⟩
    rcases Search.inOrder_no_later hechoes.implied hfound with
      ⟨i, j', r', hj', hfound', hi, hij, hfinish⟩
    rw [show chainSearch = _ from Gateway.search_of_long hid] at hj ⊢
    obtain rfl : j' = j := hj'.unique hj
    refine ⟨i, hij, r', Gateway.search_eq_ok.mpr ⟨hid, hfound'⟩, ?_⟩
    rw [show mempoolSearch = _ from Gateway.search_of_long hid]
    exact ⟨hi, hfinish⟩
  · intro r hr hbefore
    rcases Gateway.race_eq_ok.mp hr with ⟨hid, hfound⟩
    rw [show chainRace = _ from Gateway.race_of_long hid] at hbefore ⊢
    rcases Race.run_no_later _ hechoes.implied hfound hbefore with ⟨r', hfound', hearlier⟩
    refine ⟨r', Gateway.race_eq_ok.mpr ⟨hid, hfound'⟩, ?_⟩
    rw [show mempoolRace = _ from Gateway.race_of_long hid]
    exact hearlier

/-- Both explorers know the transaction, and only the slower one has it in the chain with a
confirmation. -/
def nearAndFar : Script where
  explorer := some {
    name := "near", found := .ok ⟨Search.trialId, "block", 1, 0⟩, pace := { latency := 3 } }
  secondaryExplorer := some {
    name := "far", found := .ok ⟨Search.trialId, "block", 1, 1⟩, pace := { latency := 4 } }

/-- What such an explorer answers with. -/
def trialRecord (name : String) (confirmations : UInt64) : TxRecord :=
  Provider.recordOfChain name ⟨Search.trialId, "block", 1, confirmations⟩

theorem near_sighting (now : Instant) : Provider.sighting (.outlet .explorer "near") Search.trialId
    nearAndFar.world now = .answer 3 (.ok (trialRecord "near" 0)) := by
  cbv

theorem far_sighting (now : Instant) :
    Provider.sighting (.outlet .secondaryExplorer "far") Search.trialId nearAndFar.world now =
      .answer 4 (.ok (trialRecord "far" 1)) := by
  cbv

/-- The search for the mempool ends with the nearer explorer, and that for the chain has to go on to
the other one. The races are won by the two in the same way. -/
theorem mempool_query_ends_sooner :
    let g := Gateway.withoutMiners {} nearAndFar.connections
    let w := nearAndFar.world
    let ps := g.providers .query
    let chainSearch := g.search w 0 Search.trialId .chain 9
    let mempoolSearch := g.search w 0 Search.trialId .mempool 9
    let chainRace := g.race w 0 Search.trialId .chain 9
    let mempoolRace := g.race w 0 Search.trialId .mempool 9
    Echoes w Search.trialId ps ∧ chainSearch.result = .ok (trialRecord "far" 1) ∧
      Search.EndsAt w Search.trialId ps chainSearch.calls chainSearch.moment.instant 1
        (trialRecord "far" 1) ∧
      (∃ i ≤ 1, ∃ r, mempoolSearch.result = .ok r ∧
        Search.EndsAt w Search.trialId ps mempoolSearch.calls mempoolSearch.moment.instant i r ∧
        mempoolSearch.moment.instant ≤ 7) ∧
      (∃ r, chainRace.result = .ok r) ∧ chainRace.moment.instant = 4 ∧
      ∃ r, mempoolRace.result = .ok r ∧ mempoolRace.moment.instant ≤ 4 := by
  intro g w ps chainSearch mempoolSearch chainRace mempoolRace
  have hid : TxId.isLongEnough Search.trialId = true := by decide
  have hproviders : ps = [.outlet .explorer "near", .outlet .secondaryExplorer "far"] := by decide
  have hechoes : Echoes w Search.trialId ps := by
    rw [hproviders]
    intro p hp now d r hsighting
    rcases List.mem_pair.mp hp with rfl | rfl
    · rw [near_sighting] at hsighting
      cases hsighting
      rfl
    · rw [far_sighting] at hsighting
      cases hsighting
      rfl
  have hsearch : chainSearch = ⟨.ok (trialRecord "far" 1), ⟨7, false⟩,
      [⟨.find .explorer Search.trialId, 0, 3, .answered⟩,
        ⟨.find .secondaryExplorer Search.trialId, 3, 7, .answered⟩], []⟩ := by cbv
  have hfastest : Race.Fastest w 0 Search.trialId .chain ps 4 := by
    rw [hproviders]
    constructor
    · exact ⟨_, List.mem_cons_of_mem _ List.mem_cons_self, _, far_sighting 0, by decide⟩
    · rintro p hp d r ⟨hsighting, hmet⟩
      rcases List.mem_pair.mp hp with rfl | rfl
      · rw [near_sighting] at hsighting
        cases hsighting
        exact absurd hmet (by decide)
      · rw [far_sighting] at hsighting
        cases hsighting
        exact Nat.le_refl 4
  rcases Race.run_of_fastest g.settings.raceStragglers hfastest (show 4 < 9 by decide) with
    ⟨-, -, r, -, hresult, hinstant⟩
  have hrace : chainRace.result = .ok r := Gateway.race_eq_ok.mpr ⟨hid, hresult⟩
  have hmoment : chainRace.moment.instant = 4 := by
    rw [show chainRace = _ from Gateway.race_of_long hid]
    exact hinstant
  have hends : Search.EndsAt w Search.trialId ps chainSearch.calls chainSearch.moment.instant 1
      (trialRecord "far" 1) := by
    rw [hsearch, hproviders]
    exact (Search.EndsAt.zero rfl (far_sighting 3)).succ rfl
  rcases mempool_query_no_later g w 0 Search.trialId 9 hechoes with ⟨-, hsearches, hraces⟩
  have hfound : chainSearch.result = .ok (trialRecord "far" 1) := by rw [hsearch]
  rcases hsearches 1 _ hfound hends with ⟨i, hi, r₁, hr₁, hends₁, hearlier⟩
  rcases hraces r hrace (hmoment.trans_lt (show 4 < 0 + 9 by decide)) with ⟨r₂, hr₂, hearlier₂⟩
  refine ⟨hechoes, hfound, hends, ⟨i, hi, r₁, hr₁, hends₁, ?_⟩, ⟨r, hrace⟩, hmoment, r₂, hr₂, ?_⟩
  · exact hearlier.trans_eq (congrArg (fun run => run.moment.instant) hsearch)
  · exact hearlier₂.trans_eq hmoment

end TxGateway
