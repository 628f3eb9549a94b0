import TxGateway.Gateway
import TxGateway.Proofs.Race.Winner

namespace TxGateway

/-! # Whom an answer is about

A provider's answer about another transaction is refused before a search or a race looks at it, and
an answer that leaves the id out is let pass. What is wanted decides what becomes of the latter: a
record that has to show the mempool must name the transaction, one that has to show the chain need
not.

* `Provider.id_of_sighting` is what the check of a provider leaves.
* `Search.exists_sighting_of_found` follows the record that a search ends with back to a provider,
  whatever the look-ups before it have met.
* `query_answers_for_its_id` is about the searches and races of any gateway.
-/

variable {w : World} {id : String} {wanted : Inclusion} {deadline now : Instant} {p : Provider}
  {r : TxRecord}

/-! ## The check of a provider -/

theorem TxId.agrees_iff {actual : String} :
    TxId.agrees id actual = true ↔ actual = id ∨ actual = "" := by
  rw [TxId.agrees, Bool.or_eq_true, beq_iff_eq, beq_iff_eq]
  exact or_comm

namespace Provider

theorem id_of_sighting {d : Nat} (h : p.sighting id w now = .answer d (.ok r)) :
    r.id = id ∨ r.id = "" := by
  apply TxId.agrees_iff.mp
  cases p with
  | miner m =>
    rcases Response.map_eq_answer.mp h with ⟨x, _, hx⟩
    exact (bind_about_eq_ok.mp hx).2
  | outlet o name =>
    rcases Response.map_eq_answer.mp h with ⟨x, _, hx⟩
    exact (bind_about_eq_ok.mp hx).2

theorem exists_sighting_of_lookUp
    (h : (p.lookUp id deadline w now).value = some (some (.ok r))) :
    ∃ d, p.sighting id w now = .answer d (.ok r) := by
  rw [p.lookUp_eq] at h
  rcases Response.course_value_eq_reply.mp h with ⟨d, _, hd⟩
  exact ⟨d, hd⟩

/-- A record about another transaction is an error that names both. -/
theorem about_of_other (hne : r.id ≠ id) (hnamed : r.id ≠ "") :
    about id r = .error (.wrongId id r.id) := by
  have hdisagrees : ¬ TxId.agrees id r.id = true := by
    rw [TxId.agrees_iff]
    exact not_or.mpr ⟨hne, hnamed⟩
  show Except.bind (checkId id r.id) (fun _ => .ok r) = _
  rw [checkId, if_neg hdisagrees]
  rfl

end Provider

/-! ## Searches and races -/

/-- The record is about the transaction `id`; if the chain is wanted, it may name none. -/
def TxRecord.IsFor (wanted : Inclusion) (id : String) (r : TxRecord) : Prop :=
  r.id = id ∨ (wanted = .chain ∧ r.id = "")

theorem TxRecord.isFor_of_metBy (hid : r.id = id ∨ r.id = "")
    (hmet : wanted.metBy id r = true) : r.IsFor wanted id := by
  cases wanted with
  | mempool =>
    rw [Inclusion.metBy, Bool.and_eq_true, beq_iff_eq] at hmet
    exact .inl hmet.1
  | chain =>
    rcases hid with hsame | hnone
    · exact .inl hsame
    · exact .inr ⟨rfl, hnone⟩

/-- What a search ends with is what some provider has answered, and counts. -/
theorem Search.exists_sighting_of_found {ps : List Provider}
    (h : (inOrder id wanted deadline ps w now).value = some (some r)) :
    ∃ p ∈ ps, ∃ later d, p.sighting id w later = .answer d (.ok r) ∧
      wanted.metBy id r = true := by
  -- along the providers; the instant at which the rest of the search begins stays open
  induction ps generalizing now with
  | nil => cases h
  | cons p rest ih =>
    have hrest : ∀ later, (inOrder id wanted deadline rest w later).value = some (some r) →
        ∃ q ∈ p :: rest, ∃ later d, q.sighting id w later = .answer d (.ok r) ∧
          wanted.metBy id r = true := by
      intro later hlater
      rcases ih hlater with ⟨q, hq, hfound⟩
      exact ⟨q, List.mem_cons_of_mem p hq, hfound⟩
    rw [inOrder] at h
    cases hvalue : (p.lookUp id deadline w now).value with
    | none =>
      rw [Activity.bind_of_none hvalue] at h
      cases h
    | some reply =>
      rw [Activity.bind_of_some hvalue] at h
      cases reply with
      | none => cases h
      | some answer =>
        cases answer with
        | error e => exact hrest _ h
        | ok r' =>
          by_cases hmet : wanted.metBy id r' = true
          · simp only [hmet, if_true] at h
            cases h
            rcases Provider.exists_sighting_of_lookUp hvalue with ⟨d, hd⟩
            exact ⟨p, List.mem_cons_self, now, d, hd, hmet⟩
          · simp only [hmet] at h
            exact hrest _ h

/-- **A query answers for the transaction that was asked for.** The record that a search or a race
of a gateway ends with names that transaction, or names none where the chain is wanted. A provider
hands on no record that names another one: it makes an error of it. -/
theorem query_answers_for_its_id (id : String) :
    (∀ (g : Gateway) (w : World) (start : Instant) (wanted : Inclusion) (limit : Nat)
      (r : TxRecord),
      (g.search w start id wanted limit).result = .ok r ∨
        (g.race w start id wanted limit).result = .ok r → r.IsFor wanted id) ∧
    (∀ (p : Provider) (w : World) (now deadline : Instant) (r : TxRecord),
      (p.lookUp id deadline w now).value = some (some (.ok r)) → r.id = id ∨ r.id = "") ∧
    ∀ r : TxRecord, r.id ≠ id → r.id ≠ "" → Provider.about id r = .error (.wrongId id r.id) := by
  refine ⟨?_, ?_, fun r hne hnamed => Provider.about_of_other hne hnamed⟩
  · intro g w start wanted limit r h
    by_cases hid : TxId.isLongEnough id = true
    · rcases h with hsearch | hrace
      · have hvalue : (Search.inOrder id wanted (start + limit) (g.providers .query) w start).value =
            some (some r) := by
          simpa [Gateway.search, hid, Gateway.foundOr_eq_ok, Option.join_eq_some_iff] using hsearch
        rcases Search.exists_sighting_of_found hvalue with ⟨p, _, later, d, hd, hmet⟩
        exact TxRecord.isFor_of_metBy (Provider.id_of_sighting hd) hmet
      · have hresult : (Race.run w start (g.providers .query) id wanted (start + limit)
            g.settings.raceStragglers).result = some r := by
          simpa [Gateway.race, hid, Run.map, Gateway.foundOr_eq_ok] using hrace
        rcases Race.run_result_eq_some _ hresult with ⟨p, _, d, _, hd, hmet⟩
        exact TxRecord.isFor_of_metBy (Provider.id_of_sighting hd) hmet
    · simp [Gateway.search, Gateway.race, hid, Run.done] at h
  · intro p w now deadline r h
    rcases Provider.exists_sighting_of_lookUp h with ⟨d, hd⟩
    exact Provider.id_of_sighting hd

/-- An explorer that answers every look-up with a mined record of the given id. -/
def exploring (named : String) : Script where
  explorer := some { name := "explorer", found := .ok ⟨named, "block", 1, 1⟩ }

/-- The record that this explorer answers with. -/
def explored (named : String) : TxRecord :=
  Provider.recordOfChain "explorer" ⟨named, "block", 1, 1⟩

theorem sighting_exploring {named : String} (h : TxId.agrees id named = true) (now : Instant) :
    (Provider.outlet .explorer "explorer").sighting id (exploring named).world now =
      .answer 0 (.ok (explored named)) :=
  congrArg (Response.answer 0) (Provider.bind_about_eq_ok.mpr ⟨rfl, h⟩)

/-- A search and a race find what this explorer answers with, if it counts. -/
theorem found_exploring (id named : String) (wanted : Inclusion)
    (hid : TxId.isLongEnough id = true) (hagrees : TxId.agrees id named = true)
    (hmet : wanted.metBy id (explored named) = true) :
    let g := Gateway.withoutMiners {} (exploring named).connections
    (g.search (exploring named).world 0 id wanted 10).result = .ok (explored named) ∧
      (g.race (exploring named).world 0 id wanted 10).result = .ok (explored named) := by
  intro g
  have hproviders : g.providers .query = [.outlet .explorer "explorer"] := rfl
  have hsighting := sighting_exploring hagrees 0
  have hcounts : Race.Counts (exploring named).world 0 id wanted (.outlet .explorer "explorer") 0
      (explored named) := ⟨hsighting, hmet⟩
  constructor
  · have hsearch : Search.inOrder id wanted 10 (g.providers .query) (exploring named).world 0 = _ :=
      Search.inOrder_cons_of_hit hsighting (Nat.zero_le _) hmet
    simp [Gateway.search, hid, hsearch, Gateway.foundOr]
  · have hfastest : Race.Fastest (exploring named).world 0 id wanted (g.providers .query) 0 := by
      refine ⟨⟨_, ?_, _, hcounts⟩, fun _ _ _ _ _ => Nat.zero_le _⟩
      rw [hproviders]
      exact List.mem_singleton_self _
    rcases Race.run_of_fastest g.settings.raceStragglers hfastest (show 0 < 10 by decide) with
      ⟨p, hp, r, hr, hresult, _⟩
    rw [hproviders, List.mem_singleton] at hp
    rw [hp, Race.Counts, hsighting] at hr
    cases hr.1
    simp [Gateway.race, hid, Run.map, hresult, Gateway.foundOr]

/-- The record of a query that wants the chain need not name the transaction. -/
theorem nameless_record_answers_query :
    let g := Gateway.withoutMiners {} (exploring "").connections
    TxId.isLongEnough Search.trialId = true ∧
      (g.search (exploring "").world 0 Search.trialId .chain 10).result = .ok (explored "") ∧
      (g.race (exploring "").world 0 Search.trialId .chain 10).result = .ok (explored "") ∧
      (explored "").id ≠ Search.trialId := by
  intro g
  have hid : TxId.isLongEnough Search.trialId = true := by decide
  rcases found_exploring Search.trialId "" .chain hid (by decide) (by decide) with
    ⟨hsearch, hrace⟩
  exact ⟨hid, hsearch, hrace, by decide⟩

/-- A record that names the transaction answers for the mempool; one that names another does not
even get out of the provider. -/
theorem named_record_answers_query :
    let g := Gateway.withoutMiners {} (exploring Search.trialId).connections
    let w := (exploring Search.trialId).world
    let r := explored Search.trialId
    (g.search w 0 Search.trialId .mempool 10).result = .ok r ∧
      (g.race w 0 Search.trialId .mempool 10).result = .ok r ∧
      r.IsFor .mempool Search.trialId ∧ (r.id = Search.trialId ∨ r.id = "") ∧
      Provider.about Search.trialId (explored "another") =
        .error (.wrongId Search.trialId "another") := by
  intro g w r
  rcases query_answers_for_its_id Search.trialId with ⟨hquery, hcheck, hother⟩
  rcases found_exploring Search.trialId Search.trialId .mempool (by decide) (by decide)
    (by decide) with ⟨hsearch, hrace⟩
  have hlookUp : ((Provider.outlet .explorer "explorer").lookUp Search.trialId 10 w 0).value =
      some (some (.ok r)) := by
    rw [Provider.lookUp_eq, sighting_exploring (by decide) 0,
      Response.course_answer_of_le (Nat.zero_le _)]
  refine ⟨hsearch, hrace, ?_, ?_, ?_⟩
  · exact hquery g w 0 .mempool 10 r (.inl hsearch)
  · exact hcheck _ w 0 10 r hlookUp
  · exact hother (explored "another") (by decide) (by decide)

end TxGateway
