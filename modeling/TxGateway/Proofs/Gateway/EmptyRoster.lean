import TxGateway.Proofs.Broadcast.Calls
import TxGateway.Proofs.FirstDelivery
import TxGateway.Proofs.Gateway.Eligibility
import TxGateway.Proofs.Gateway.Soundness
import TxGateway.Proofs.Race.Winner

namespace TxGateway

/-! # Operations without providers

Settings may leave an operation without anybody to call: families may be left out or not connected,
the network may not be theirs, a key may be missing, and miners may never have been probed. A
broadcast says so then. A search and a race do not: they say that the transaction has not been
found, although nobody has been asked for it.

* `Origin.Serves` says that a family has providers for a purpose, and `providers_eq_nil_iff` that a
  roster is empty if no family does.
* `Gateway.LooksUp` is what a search and a race do with the providers that they have, and
  `Gateway.broadcast_of_nobody` and `Gateway.broadcast_asks` tell what a broadcast does.
* `not_found_unasked_iff` puts these together for a gateway in use.
-/

/-! ## Empty rosters -/

/-- The family has a provider for a purpose under settings. The miners must have been admitted when
the gateway was built too, and only the secondary explorer is kept for look-ups. -/
def Origin.Serves (o : Origin) (s : Settings) (purpose : Purpose) : Family → Prop
  | .miner => Admitted o.settings o.connections .miner ∧ Admitted s o.connections .miner
  | .secondaryExplorer => purpose = .query ∧ Admitted s o.connections .secondaryExplorer
  | f => Admitted s o.connections f

variable {o : Origin} {g : Gateway} {purpose : Purpose}

/-- The miners of a gateway were probed if and only if they were admitted when it was built. -/
theorem Origin.probed_iff (h : o.build.result = .ok g) :
    g.miners.probed = true ↔ Admitted o.settings o.connections .miner := by
  rw [← admitsMiners_iff]
  rcases (Origin.build_eq_ok h).2 with ⟨hadmits, rfl⟩ | ⟨hadmits, x, _, rfl⟩
  · rw [hadmits]
    simp [Gateway.withoutMiners]
  · rw [hadmits]
    simp [Gateway.withSelection]

/-- Miners that were probed are never all lost. -/
theorem Sound.exists_miner (h : Sound g) (hprobed : g.miners.probed = true) (purpose : Purpose) :
    ∃ m, m ∈ g.miners.list purpose := by
  cases purpose with
  | broadcast => exact List.exists_mem_of_ne_nil _ (h.broadcast hprobed)
  | query => exact List.exists_mem_of_ne_nil _ (h.query hprobed)

/-- Nobody is there for a purpose if and only if no family serves it. -/
theorem providers_eq_nil_iff (hbuild : o.build.result = .ok g) (before : List Use)
    (purpose : Purpose) :
    (g.afterAll before).providers purpose = [] ↔
      ∀ f, ¬ o.Serves (lastAccepted o.settings before) purpose f := by
  have hsettings : (g.afterAll before).settings = lastAccepted o.settings before := by
    rw [g.afterAll_settings, Origin.settings_of_build hbuild]
  have hconnections : (g.afterAll before).connections = o.connections :=
    ((descends_of_build hbuild).afterAll before).connections
  have hmem := @mem_providers purpose (g.afterAll before)
  rw [hsettings, hconnections, g.afterAll_miners, Origin.probed_iff hbuild] at hmem
  rw [List.eq_nil_iff_forall_not_mem]
  constructor
  · intro hnone f hserves
    have houtlet : ∀ x : Outlet, Admitted (lastAccepted o.settings before) o.connections x.family →
        ¬ (x = .secondaryExplorer → purpose = .query) := by
      intro x hnow hkept
      rcases has_outlet_iff.mp hnow.connected with ⟨name, hname⟩
      exact hnone _ (hmem.mpr (.inr ⟨x, name, rfl, hname, hnow, hkept⟩))
    cases f with
    | miner =>
      have hprobed := (Origin.probed_iff hbuild).mpr hserves.1
      rcases (Origin.sound_of_build hbuild).exists_miner hprobed purpose with ⟨m, hm⟩
      exact hnone _ (hmem.mpr (.inl ⟨m, hm, rfl, hserves⟩))
    | explorer => exact houtlet .explorer hserves nofun
    | secondaryExplorer => exact houtlet .secondaryExplorer hserves.2 fun _ => hserves.1
    | nodeProxy => exact houtlet .nodeProxy hserves nofun
  · intro hnone p hp
    rcases hmem.mp hp with ⟨m, hm, rfl, hthen, hnow⟩ | ⟨x, name, rfl, hname, hnow, hkept⟩
    · exact hnone .miner ⟨hthen, hnow⟩
    · cases x with
      | explorer => exact hnone .explorer hnow
      | secondaryExplorer => exact hnone .secondaryExplorer ⟨hkept rfl, hnow⟩
      | nodeProxy => exact hnone .nodeProxy hnow

/-! ## Operations -/

/-- The step calls nobody and takes no time. -/
def Run.Idle {α : Type} (r : Run α) (start : Instant) : Prop :=
  r.allCalls = [] ∧ r.moment.instant = start

theorem Search.calls_ne_nil {id : String} {wanted : Inclusion} {deadline now : Instant} {w : World}
    {ps : List Provider} (h : ps ≠ []) : (inOrder id wanted deadline ps w now).calls ≠ [] := by
  cases ps with
  | nil => exact absurd rfl h
  | cons p rest =>
    rcases inOrder_cons_cases id wanted deadline p rest w now with
      ⟨t, h⟩ | ⟨t, h⟩ | ⟨t, r, _, h⟩ | ⟨t, h⟩ <;> simp [h]

/-- A call that has begun when a wait for the first delivery ends is shown: as it ended, as it is
still open, or as it was broken off. -/
theorem Scope.allCalls_first_ne_nil {α : Type} {start deadline : Instant} {policy : Stragglers}
    {tasks : List (Task α)} {c : CallTrace} (hc : c ∈ calls tasks)
    (hbegan : c.began ≤ (first start deadline policy tasks).moment.instant) :
    (first start deadline policy tasks).allCalls ≠ [] := by
  cases hpast : (first start deadline policy tasks).moment.isPast c with
  | true =>
    have hended : c ∈ (calls tasks).filter (first start deadline policy tasks).moment.isPast :=
      List.mem_filter.mpr ⟨hc, hpast⟩
    cases policy with
    | detach =>
      apply List.ne_nil_of_mem
      exact List.mem_append_left _ hended
    | abort =>
      apply List.ne_nil_of_mem
      exact List.mem_append_left _ (List.mem_append_left _ hended)
  | false =>
    have hopen : c ∈ (calls tasks).filter fun c =>
        !(first start deadline policy tasks).moment.isPast c := by
      simp [hc, hpast]
    cases policy with
    | detach =>
      apply List.ne_nil_of_mem
      exact List.mem_append_right _ hopen
    | abort =>
      -- it is shown as broken off, since it had begun
      apply List.ne_nil_of_mem
      apply List.mem_append_left
      apply List.mem_append_right
      exact List.mem_map_of_mem (List.mem_filter.mpr ⟨hopen, decide_eq_true hbegan⟩)

/-- A wait for nobody is over at once. -/
theorem Scope.first_nil {α : Type} (start deadline : Instant) (policy : Stragglers) :
    (first start deadline policy ([] : List (Task α))).result = none ∧
      (first start deadline policy ([] : List (Task α))).Idle start := by
  have hwinner : winner? start deadline ([] : List (Task α)) = none := by
    simp [winner?, arrivals, EventLoop.run, EventLoop.next?]
  have hmoment : (first start deadline policy ([] : List (Task α))).moment.instant = start := by
    rw [first_moment, hwinner]
    simp [givenUp, finish]
  refine ⟨(first_result deadline policy []).trans hwinner, ?_, hmoment⟩
  cases policy <;> rfl

theorem Race.calls_ne_nil {w : World} {start : Instant} {ps : List Provider} {id : String}
    {wanted : Inclusion} {limit : Nat} {policy : Stragglers} (h : ps ≠ []) :
    (run w start ps id wanted (start + limit) policy).allCalls ≠ [] := by
  rcases List.exists_mem_of_ne_nil ps h with ⟨p, hp⟩
  rcases (p.sighting id w start).course_calls (p.lookUpCall id) limit start with ⟨fate, hcalls⟩
  have htask := ask_eq id wanted limit p w start
  rw [hcalls] at htask
  -- its look-up begins at once
  have hcall : (⟨p.lookUpCall id, start, start + (p.sighting id w start).duration limit, fate⟩ :
      CallTrace) ∈ Scope.calls (tasks w start id wanted limit ps) := by
    refine List.mem_flatMap.mpr ⟨_, List.mem_map_of_mem hp, ?_⟩
    rw [htask]
    exact List.mem_singleton.mpr rfl
  have hfirst : (Scope.first start (start + limit) policy
      (tasks w start id wanted limit ps)).allCalls ≠ [] :=
    Scope.allCalls_first_ne_nil hcall (Scope.start_le_first wellTimed_tasks)
  exact hfirst

namespace Gateway

variable {w : World} {start : Instant} {id hex : String} {wanted : Inclusion} {limit : Nat}
  {latch : Latch}

/-- What a look-up does with the providers that it has. -/
structure LooksUp (g : Gateway) (start : Instant) (step : Run (Except Failure TxRecord)) :
    Prop where
  /-- If it has nobody, nothing is found at once. -/
  nobody : g.providers .query = [] → step.result = .error .notFound ∧ step.Idle start
  asks : g.providers .query ≠ [] → step.allCalls ≠ []
  /-- It has no failure but this. -/
  failure : ∀ f, step.result = .error f → f = .notFound

theorem search_looksUp (hid : TxId.isLongEnough id = true) :
    g.LooksUp start (g.search w start id wanted limit) := by
  have hsearch : g.search w start id wanted limit =
      ⟨foundOr (Search.inOrder id wanted (start + limit) (g.providers .query) w start).value.join,
        ⟨(Search.inOrder id wanted (start + limit) (g.providers .query) w start).finish, false⟩,
        (Search.inOrder id wanted (start + limit) (g.providers .query) w start).calls, []⟩ := by
    simp [search, hid]
  rw [hsearch]
  constructor
  · intro hnobody
    rw [hnobody]
    exact ⟨rfl, rfl, rfl⟩
  · intro hsomebody
    rw [Run.allCalls, List.append_nil]
    exact Search.calls_ne_nil hsomebody
  · intro f hf
    exact (foundOr_eq_error.mp hf).2

theorem race_looksUp (hid : TxId.isLongEnough id = true) :
    g.LooksUp start (g.race w start id wanted limit) := by
  have hrace : g.race w start id wanted limit =
      (Race.run w start (g.providers .query) id wanted (start + limit)
        g.settings.raceStragglers).map foundOr := by
    simp [race, hid]
  rw [hrace]
  constructor
  · intro hnobody
    rcases Scope.first_nil (α := TxRecord) start (start + limit) g.settings.raceStragglers with
      ⟨hresult, hcalls, hmoment⟩
    rw [hnobody]
    refine ⟨?_, hcalls, hmoment⟩
    exact congrArg (fun a : Option (Arrival TxRecord) => foundOr (a.map Arrival.value)) hresult
  · intro hsomebody
    exact Race.calls_ne_nil hsomebody
  · intro f hf
    exact (foundOr_eq_error.mp hf).2

theorem broadcast_of_nobody (hid : TxId.isLongEnough id = true)
    (hhex : Text.isBlankText hex = false) (h : g.providers .broadcast = []) :
    (g.broadcast w start id hex limit latch).result = ⟨.error (.noProviders .broadcast), latch⟩ ∧
      (g.broadcast w start id hex limit latch).Idle start := by
  rw [Broadcast.broadcast_of_valid hid hhex, h]
  exact ⟨rfl, rfl, rfl⟩

theorem broadcast_asks (hid : TxId.isLongEnough id = true)
    (hhex : Text.isBlankText hex = false) (h : g.providers .broadcast ≠ []) :
    (g.broadcast w start id hex limit latch).result.result ≠ .error (.noProviders .broadcast) ∧
      (g.broadcast w start id hex limit latch).allCalls ≠ [] := by
  rw [Broadcast.broadcast_of_valid hid hhex, Broadcast.run_of_ne_nil h]
  constructor
  · intro hresult
    have hverdict : ∀ reports, Broadcast.verdict reports ≠ .error (.noProviders .broadcast) := by
      intro reports
      unfold Broadcast.verdict
      split <;> simp
    exact hverdict _ hresult
  · rcases List.exists_mem_of_ne_nil _ h with ⟨p, hp⟩
    have hstart : start ≤ (Broadcast.requestOf g start id hex limit).deadline :=
      Nat.le_add_right start limit
    rcases Broadcast.lookUps_of_task hstart p w with ⟨submission, walk, htask, _⟩
    have hmem : submission ∈ (Broadcast.attempt (Broadcast.requestOf g start id hex limit) p w
        start).calls := by
      rw [htask]
      exact List.mem_cons_self
    apply List.ne_nil_of_mem
    exact List.mem_append_left _ (List.mem_flatMap.mpr ⟨_, List.mem_map_of_mem hp, hmem⟩)

end Gateway

/-! ## Gateways in use -/

/-- **Not to be found is no answer of providers.** For a gateway in use, whether an operation has
anybody to call depends on the settings in force, and for miners also on those at first. If a search
or a race has nobody, the transaction is not found all the same, at once and with no call; it never
fails for want of providers. A broadcast that has nobody fails for that very reason, at once and
with no call, and leaves the latch as it was. Whoever has somebody to call does so. -/
theorem not_found_unasked_iff (o : Origin) (g : Gateway) (hbuild : o.build.result = .ok g)
    (before : List Use) (w : World) (start : Instant) (id : String) (limit : Nat)
    (hid : TxId.isLongEnough id = true) :
    let s := lastAccepted o.settings before
    let g := g.afterAll before
    (∀ purpose, g.providers purpose = [] ↔ ∀ f, ¬ o.Serves s purpose f) ∧
    (∀ wanted, ∀ step ∈ [g.search w start id wanted limit, g.race w start id wanted limit],
      (step.result = .error .notFound ∧ step.allCalls = [] ↔ g.providers .query = []) ∧
      (g.providers .query = [] → step.moment.instant = start) ∧
      ∀ f, step.result = .error f → f = .notFound) ∧
    ∀ hex latch, Text.isBlankText hex = false →
      let step := g.broadcast w start id hex limit latch
      (step.result.result = .error (.noProviders .broadcast) ↔ g.providers .broadcast = []) ∧
      (g.providers .broadcast = [] →
        step.result.latch = latch ∧ step.allCalls = [] ∧ step.moment.instant = start) ∧
      (g.providers .broadcast ≠ [] → step.allCalls ≠ []) := by
  intro s g
  refine ⟨fun purpose => providers_eq_nil_iff hbuild before purpose, ?_, ?_⟩
  · intro wanted step hstep
    have hlooks : g.LooksUp start step := by
      rcases List.mem_pair.mp hstep with rfl | rfl
      · exact Gateway.search_looksUp hid
      · exact Gateway.race_looksUp hid
    refine ⟨⟨?_, ?_⟩, ?_, hlooks.failure⟩
    · intro hunasked
      by_contra hsomebody
      exact hlooks.asks hsomebody hunasked.2
    · intro hnobody
      exact ⟨(hlooks.nobody hnobody).1, (hlooks.nobody hnobody).2.1⟩
    · intro hnobody
      exact (hlooks.nobody hnobody).2.2
  · intro hex latch hhex step
    refine ⟨⟨?_, ?_⟩, ?_, ?_⟩
    · intro hresult
      by_contra hsomebody
      exact (Gateway.broadcast_asks hid hhex hsomebody).1 hresult
    · intro hnobody
      exact congrArg Broadcast.Outcome.result (Gateway.broadcast_of_nobody hid hhex hnobody).1
    · intro hnobody
      have hidle : step.result = ⟨.error (.noProviders .broadcast), latch⟩ ∧ step.Idle start :=
        Gateway.broadcast_of_nobody hid hhex hnobody
      exact ⟨congrArg Broadcast.Outcome.latch hidle.1, hidle.2⟩
    · intro hsomebody
      exact (Gateway.broadcast_asks hid hhex hsomebody).2

/-- An origin with an explorer only, which knows a transaction. -/
def explorerOnly : Origin where
  world := ({ explorer := some { name := "far", found := .ok ⟨Search.trialId, "block", 1, 1⟩ } } :
    Script).world
  start := 0
  clock := ⟨⟨2025, 1, 1⟩, 12, 0, 0, 0⟩
  settings := { excluded := [.miner] }
  connections := { explorer := some "far" }

/-- The explorer knows the transaction, but is left out by an update. -/
theorem not_found_after_update :
    let o := explorerOnly
    let g := Gateway.withoutMiners o.settings o.connections
    let before := [.update { excluded := [.miner, .explorer] }]
    let later := g.afterAll before
    let id := Search.trialId
    o.build.result = .ok g ∧ TxId.isLongEnough id = true ∧
      (g.search o.world 0 id .chain 10).result =
        .ok (Provider.recordOfChain "far" ⟨id, "block", 1, 1⟩) ∧
      (∀ f, ¬ o.Serves (lastAccepted o.settings before) .query f) ∧
      (later.search o.world 0 id .chain 10).result = .error .notFound ∧
      (later.race o.world 0 id .chain 10).result = .error .notFound ∧
      (later.broadcast o.world 0 id "00" 10 {}).result.result =
        .error (.noProviders .broadcast) := by
  intro o g before later id
  have hbuild : o.build.result = .ok g := by decide
  have hid : TxId.isLongEnough id = true := by decide
  have hquery : later.providers .query = [] := by decide
  have hbroadcast : later.providers .broadcast = [] := by decide
  rcases not_found_unasked_iff o g hbuild before o.world 0 id 10 hid with
    ⟨hserves, hlooks, hgives⟩
  rcases hlooks .chain (later.search o.world 0 id .chain 10) (by simp [later]) with ⟨hsearch, _⟩
  rcases hlooks .chain (later.race o.world 0 id .chain 10) (by simp [later]) with ⟨hrace, _⟩
  rcases hgives "00" {} (by decide) with ⟨hbroadcasts, _⟩
  have hfound : (g.search o.world 0 id .chain 10).result =
      .ok (Provider.recordOfChain "far" ⟨id, "block", 1, 1⟩) := by
    have hproviders : g.providers .query = [.outlet .explorer "far"] := by decide
    have hsighting : (Provider.outlet .explorer "far").sighting id o.world 0 =
        .answer 0 (.ok (Provider.recordOfChain "far" ⟨id, "block", 1, 1⟩)) := rfl
    have hcourse : (Search.inOrder id .chain (0 + 10) [.outlet .explorer "far"] o.world 0).value =
        some (some (Provider.recordOfChain "far" ⟨id, "block", 1, 1⟩)) := by
      rw [Search.inOrder_cons_of_hit hsighting (Nat.zero_le _) (by decide)]
    simp [Gateway.search, hid, hproviders, hcourse, Gateway.foundOr]
  exact ⟨hbuild, hid, hfound, (hserves .query).mp hquery, (hsearch.mpr hquery).1,
    (hrace.mpr hquery).1, hbroadcasts.mpr hbroadcast⟩

/-- A gateway that is connected to nobody does not find a transaction, and asks nobody for it. -/
theorem not_found_by_nobody :
    let o : Origin := { explorerOnly with connections := {} }
    let g := Gateway.withoutMiners o.settings o.connections
    let search := g.search o.world 0 Search.trialId .mempool 10
    let race := g.race o.world 0 Search.trialId .mempool 10
    o.build.result = .ok g ∧ TxId.isLongEnough Search.trialId = true ∧
      g.providers .query = [] ∧
      search.result = .error .notFound ∧ search.allCalls = [] ∧
      search.result ≠ .error (.noProviders .query) ∧
      race.result = .error .notFound ∧ race.allCalls = [] ∧
      race.result ≠ .error (.noProviders .query) := by
  intro o g search race
  have hid : TxId.isLongEnough Search.trialId = true := by decide
  have hquery : g.providers .query = [] := by decide
  have hsearch : g.LooksUp 0 search := Gateway.search_looksUp hid
  have hrace : g.LooksUp 0 race := Gateway.race_looksUp hid
  rcases hsearch.nobody hquery with ⟨hsearchResult, hsearchIdle⟩
  rcases hrace.nobody hquery with ⟨hraceResult, hraceIdle⟩
  refine ⟨by decide, hid, hquery, hsearchResult, hsearchIdle.1, ?_, hraceResult, hraceIdle.1, ?_⟩
  · rw [hsearchResult]
    simp
  · rw [hraceResult]
    simp

end TxGateway
