import TxGateway.Proofs.Gateway.Uses
import TxGateway.Proofs.Search.Walk

namespace TxGateway

/-! # Who may be called

Whether a gateway may call a provider depends on the settings in force when the operation begins,
and for miners also on how the gateway was built: miners that were not probed then never take part.

* `Admitted` is what settings must say for a family to take part.
* `Eligible` is what must hold for a call. It mentions the settings in force and the origin of the
  gateway, and nothing that has happened in between.
* `mem_providers` compares the roster with `Admitted`.
* `Descends` is the invariant of a gateway in use, and `eligible_of_mem_calls` is the step.
-/

/-! ## Families -/

/-- A service of the family is connected. -/
def Connections.Has (c : Connections) : Family → Prop
  | .miner => c.miners = true
  | .explorer => ∃ name, c.explorer = some name
  | .secondaryExplorer => ∃ name, c.secondaryExplorer = some name
  | .nodeProxy => ∃ name, c.nodeProxy = some name

/-- Settings let a family take part in operations. -/
structure Admitted (s : Settings) (c : Connections) (f : Family) : Prop where
  notExcluded : f ∉ s.excluded
  connected : c.Has f
  /-- Miners and node proxies serve the main and the test network only. -/
  served : f = .miner ∨ f = .nodeProxy → s.network = .main ∨ s.network = .test
  /-- A node proxy needs a key that is not blank. -/
  keyed : f = .nodeProxy → ∃ e k, s.nodeProxy = some e ∧ e.apiKey = some k ∧ k.isBlank = false

variable {s : Settings} {c : Connections} {x : Outlet} {purpose : Purpose}

theorem servesMiners_iff {n : Network} : n.servesMiners = true ↔ n = .main ∨ n = .test := by
  cases n <;> simp [Network.servesMiners]

theorem isExcluded_eq_false_iff {f : Family} : s.isExcluded f = false ↔ f ∉ s.excluded := by
  rw [Settings.isExcluded, ← Bool.not_eq_true, List.contains_iff_mem]

theorem nodeProxyCredential?_isSome_iff : s.nodeProxyCredential?.isSome = true ↔
    ∃ e k, s.nodeProxy = some e ∧ e.apiKey = some k ∧ k.isBlank = false := by
  rw [Option.isSome_iff_exists]
  simp only [Settings.nodeProxyCredential?, Endpoint.credential?, Secret.usable?,
    Option.bind_eq_some_iff, Option.filter_eq_some_iff, Bool.not_eq_true']
  constructor
  · rintro ⟨k, e, he, hk, hblank⟩
    exact ⟨e, k, he, hk, hblank⟩
  · rintro ⟨e, k, he, hk, hblank⟩
    exact ⟨k, e, he, hk, hblank⟩

theorem admitsMiners_iff : Roster.admitsMiners s c = true ↔ Admitted s c .miner := by
  have hadmits : Roster.admitsMiners s c = true ↔
      (s.network.servesMiners = true ∧ s.isExcluded .miner = false) ∧ c.miners = true := by
    simp [Roster.admitsMiners]
  rw [hadmits, servesMiners_iff, isExcluded_eq_false_iff]
  constructor
  · rintro ⟨⟨hserved, hexcluded⟩, hconnected⟩
    exact ⟨hexcluded, hconnected, fun _ => hserved, fun h => nomatch h⟩
  · intro h
    exact ⟨⟨h.served (.inl rfl), h.notExcluded⟩, h.connected⟩

theorem has_outlet_iff : c.Has x.family ↔ ∃ name, c.outlet x = some name := by
  cases x <;> rfl

/-- The roster admits an outlet that is connected as its family is admitted. Only the secondary
explorer is kept for look-ups. -/
theorem admits_iff (hconnected : c.Has x.family) : Roster.admits s purpose x = true ↔
    Admitted s c x.family ∧ (x = .secondaryExplorer → purpose = .query) := by
  unfold Roster.admits
  rw [Bool.and_eq_true, Bool.not_eq_true', isExcluded_eq_false_iff]
  cases x with
  | explorer =>
    constructor
    · rintro ⟨hexcluded, -⟩
      refine ⟨⟨hexcluded, hconnected, ?_, fun h => nomatch h⟩, fun h => nomatch h⟩
      rintro (h | h) <;> cases h
    · intro h
      exact ⟨h.1.notExcluded, rfl⟩
  | secondaryExplorer =>
    constructor
    · rintro ⟨hexcluded, hpurpose⟩
      refine ⟨⟨hexcluded, hconnected, ?_, fun h => nomatch h⟩, fun _ => by simpa using hpurpose⟩
      rintro (h | h) <;> cases h
    · intro h
      exact ⟨h.1.notExcluded, by simpa using h.2 rfl⟩
  | nodeProxy =>
    simp only [Bool.and_eq_true, servesMiners_iff, nodeProxyCredential?_isSome_iff]
    constructor
    · rintro ⟨hexcluded, hserved, hkeyed⟩
      exact ⟨⟨hexcluded, hconnected, fun _ => hserved, fun _ => hkeyed⟩, fun h => nomatch h⟩
    · intro h
      exact ⟨h.1.notExcluded, h.1.served (.inr rfl), h.1.keyed rfl⟩

/-! ## Providers -/

theorem mem_rosterMiners {m : MinerLists} {p : Provider} : p ∈ Roster.miners s m c purpose ↔
    ∃ x ∈ m.list purpose, p = .miner x ∧ m.probed = true ∧ Admitted s c .miner := by
  unfold Roster.miners
  rw [← admitsMiners_iff]
  by_cases h : (Roster.admitsMiners s c && m.probed) = true
  · obtain ⟨hadmits, hprobed⟩ := Bool.and_eq_true_iff.mp h
    rw [if_pos h, List.mem_map]
    constructor
    · rintro ⟨x, hx, rfl⟩
      exact ⟨x, hx, rfl, hprobed, hadmits⟩
    · rintro ⟨x, hx, rfl, -, -⟩
      exact ⟨x, hx, rfl⟩
  · rw [if_neg h]
    constructor
    · intro hp
      cases hp
    · rintro ⟨x, -, -, hprobed, hadmits⟩
      exact absurd (Bool.and_eq_true_iff.mpr ⟨hadmits, hprobed⟩) h

theorem mem_rosterOutlet {p : Provider} : p ∈ Roster.outlet s c purpose x ↔
    ∃ name, p = .outlet x name ∧ c.outlet x = some name ∧ Admitted s c x.family ∧
      (x = .secondaryExplorer → purpose = .query) := by
  unfold Roster.outlet
  cases hname : c.outlet x with
  | none => simp
  | some name =>
    rw [← admits_iff (has_outlet_iff.mpr ⟨name, hname⟩)]
    by_cases h : Roster.admits s purpose x = true <;> simp [h]

/-- The providers of a gateway: miners of its list if they were probed and are admitted, and the
outlets that are admitted. -/
theorem mem_providers {g : Gateway} {p : Provider} : p ∈ g.providers purpose ↔
    (∃ m ∈ g.miners.list purpose, p = .miner m ∧ g.miners.probed = true ∧
      Admitted g.settings g.connections .miner) ∨
    (∃ x name, p = .outlet x name ∧ g.connections.outlet x = some name ∧
      Admitted g.settings g.connections x.family ∧
      (x = .secondaryExplorer → purpose = .query)) := by
  have hsplit : p ∈ g.providers purpose ↔
      p ∈ Roster.miners g.settings g.miners g.connections purpose ∨
        ∃ x, p ∈ Roster.outlet g.settings g.connections purpose x := by
    simp only [Gateway.providers, Roster.providers, List.mem_append, or_assoc]
    refine or_congr_right ⟨?_, ?_⟩
    · rintro (h | h | h)
      · exact ⟨_, h⟩
      · exact ⟨_, h⟩
      · exact ⟨_, h⟩
    · rintro ⟨x, h⟩
      cases x with
      | explorer => exact .inl h
      | secondaryExplorer => exact .inr (.inl h)
      | nodeProxy => exact .inr (.inr h)
  simp only [hsplit, mem_rosterMiners, mem_rosterOutlet]

/-! ## Calls -/

/-- The health check of the miners was made when the gateway was built: they were admitted then, and
each one of the broadcast list was asked for its fee. -/
structure Origin.Checked (o : Origin) : Prop where
  admitted : Admitted o.settings o.connections .miner
  asked : o.build.allCalls.map CallTrace.call =
    (o.settings.miners .broadcast).map fun m => .quote m.dialect m

/-- The miner named a valid fee in time when the gateway was built, and bears it since. -/
def Origin.Survived (o : Origin) (m : Miner) : Prop :=
  ∃ m₀ ∈ o.settings.miners .broadcast, ∃ fee,
    FeeSurvey.NamesFee o.world o.start (o.settings.limit .feeProbe) m₀ fee ∧
      m = FeeSurvey.probed m₀ (some fee) o.clock

/-- What must hold for a call under settings. Fees are never asked for again. -/
def Eligible (o : Origin) (s : Settings) : Call → Prop
  | .submit m _ => o.Checked ∧ o.Survived m ∧ Admitted s o.connections .miner
  | .status m _ =>
    o.Checked ∧ m ∈ o.settings.miners .query ∧ Admitted s o.connections .miner
  | .quote _ _ => False
  | .publish x _ => x ≠ .secondaryExplorer ∧ Admitted s o.connections x.family
  | .find x _ => Admitted s o.connections x.family
  | .verify position _ => position < o.connections.verifiers.length

/-- The family that a call goes to, if it goes to a provider. -/
def Call.family? : Call → Option Family
  | .submit .. | .status .. | .quote .. => some .miner
  | .publish x _ | .find x _ => some x.family
  | .verify .. => none

/-- A gateway that was built from an origin and has been in use. -/
structure Descends (o : Origin) (g : Gateway) : Prop where
  connections : g.connections = o.connections
  checked : g.miners.probed = true → o.Checked
  survived : g.miners.probed = true → ∀ m ∈ g.miners.broadcast, o.Survived m
  query : g.miners.query = o.settings.miners .query

variable {o : Origin} {g : Gateway}

theorem descends_of_build (h : o.build.result = .ok g) : Descends o g := by
  obtain ⟨hvalid, ⟨-, rfl⟩ | ⟨hadmits, x, hx, rfl⟩⟩ := Origin.build_eq_ok h
  -- without a survey the miners are not probed, and nothing is claimed of them
  · exact ⟨rfl, (fun h => nomatch h), (fun h => nomatch h), rfl⟩
  · have hcalls := Origin.build_calls hvalid
    rw [if_pos hadmits] at hcalls
    refine ⟨rfl, fun _ => ⟨admitsMiners_iff.mp hadmits, hcalls⟩, ?_, ?_⟩
    · intro _ m hm
      exact (FeeSurvey.mem_broadcast_iff hx).mp hm
    · exact (FeeSurvey.select_eq_ok hx).2

theorem Descends.afterAll (h : Descends o g) (uses : List Use) : Descends o (g.afterAll uses) := by
  constructor
  · rw [g.afterAll_connections, h.connections]
  · rw [g.afterAll_miners]
    exact h.checked
  · rw [g.afterAll_miners]
    exact h.survived
  · rw [g.afterAll_miners, h.query]

theorem Descends.eligible_submitCall (h : Descends o g) {p : Provider}
    (hp : p ∈ g.providers .broadcast) (hex : String) :
    Eligible o g.settings (p.submitCall hex) := by
  rcases mem_providers.mp hp with
    ⟨m, hm, rfl, hprobed, hadmitted⟩ | ⟨x, name, rfl, -, hadmitted, hx⟩
  · rw [h.connections] at hadmitted
    exact ⟨h.checked hprobed, h.survived hprobed m hm, hadmitted⟩
  · rw [h.connections] at hadmitted
    refine ⟨?_, hadmitted⟩
    -- the secondary explorer is kept for queries, and this is a broadcast
    intro hsecondary
    cases hx hsecondary

theorem Descends.eligible_lookUpCall (h : Descends o g) {p : Provider}
    (hp : p ∈ g.providers .query) (id : String) : Eligible o g.settings (p.lookUpCall id) := by
  rcases mem_providers.mp hp with
    ⟨m, hm, rfl, hprobed, hadmitted⟩ | ⟨x, name, rfl, -, hadmitted, -⟩
  · rw [h.connections] at hadmitted
    refine ⟨h.checked hprobed, ?_, hadmitted⟩
    rw [← h.query]
    exact hm
  · rw [h.connections] at hadmitted
    exact hadmitted

/-- Every call of a use is eligible under the settings that the gateway then has. -/
theorem Descends.eligible_of_mem_calls (h : Descends o g) {w : World} {start : Instant} {u : Use}
    {t : CallTrace} (ht : t ∈ g.calls w start u) : Eligible o g.settings t.call := by
  cases u with
  | update s => cases ht
  | broadcast id hex limit latch =>
    rcases Gateway.broadcast_contacts ht with ⟨p, hp, hcall⟩ | ⟨p, hp, hcall⟩
    · rw [hcall]
      exact h.eligible_submitCall hp hex
    -- the providers to fall back on are those for queries under the same settings
    · rw [hcall]
      exact h.eligible_lookUpCall hp id
  | search id wanted limit =>
    obtain ⟨p, hp, hcall⟩ := Gateway.search_contacts ht
    rw [hcall]
    exact h.eligible_lookUpCall hp id
  | race id wanted limit =>
    obtain ⟨p, hp, hcall⟩ := Gateway.race_contacts ht
    rw [hcall]
    exact h.eligible_lookUpCall hp id
  | verify roots =>
    obtain ⟨position, hposition, hcall⟩ := Verification.run_contacts ht
    rw [h.connections] at hposition
    rw [hcall]
    exact hposition

/-- Whatever uses a gateway has seen since it was built, each call of its next use is eligible under
the last settings that were accepted. If miners were not admitted when it was built, they are never
called, neither then nor later. -/
theorem calls_eligible_for_life (o : Origin) (g : Gateway) (hbuild : o.build.result = .ok g)
    (before : List Use) (w : World) (start : Instant) (u : Use) :
    (∀ t ∈ (g.afterAll before).calls w start u,
      Eligible o (lastAccepted o.settings before) t.call) ∧
    (¬ Admitted o.settings o.connections .miner → o.build.allCalls = [] ∧
      ∀ t ∈ (g.afterAll before).calls w start u, t.call.family? ≠ some .miner) := by
  have hsettings : g.settings = o.settings := by
    obtain ⟨-, ⟨-, rfl⟩ | ⟨-, x, -, rfl⟩⟩ := Origin.build_eq_ok hbuild
    · rfl
    · rfl
  have heligible : ∀ t ∈ (g.afterAll before).calls w start u,
      Eligible o (lastAccepted o.settings before) t.call := by
    intro t ht
    rw [← hsettings, ← g.afterAll_settings]
    exact ((descends_of_build hbuild).afterAll before).eligible_of_mem_calls ht
  refine ⟨heligible, ?_⟩
  intro hnot
  constructor
  · have hadmits : ¬ Roster.admitsMiners o.settings o.connections = true :=
      fun h => hnot (admitsMiners_iff.mp h)
    have hcalls := Origin.build_calls (Origin.build_eq_ok hbuild).1
    rw [if_neg hadmits] at hcalls
    exact List.map_eq_nil_iff.mp hcalls
  · intro t ht hfamily
    have ht' := heligible t ht
    cases hcall : t.call with
    | submit m hex =>
      rw [hcall] at ht'
      exact hnot ht'.1.admitted
    | status m id =>
      rw [hcall] at ht'
      exact hnot ht'.1.admitted
    | quote dialect m =>
      rw [hcall] at ht'
      exact ht'
    | publish x hex =>
      rw [hcall] at hfamily
      cases x <;> cases hfamily
    | find x id =>
      rw [hcall] at hfamily
      cases x <;> cases hfamily
    | verify position roots =>
      rw [hcall] at hfamily
      cases hfamily

/-- A miner and an explorer that take a transaction. -/
def minerAndExplorer : Script where
  miners := some [("Taal", { submission := .ok (Scripted.accepting "Taal" Search.trialId) })]
  explorer := some { name := "near", published := .ok Search.trialId }

/-- An origin whose settings leave miners out. -/
def minersLeftOut : Origin where
  world := minerAndExplorer.world
  start := 0
  clock := ⟨⟨2025, 1, 1⟩, 12, 0, 0, 0⟩
  settings := { excluded := [.miner] }
  connections := minerAndExplorer.connections

/-- A miner that was left out at first stays out after an update that admits it, and only the
explorer is given the transaction. -/
theorem miners_stay_out_after_update :
    let o := minersLeftOut
    let g := Gateway.withoutMiners o.settings o.connections
    let before := [.update {}]
    let u := Use.broadcast Search.trialId "00" 7 {}
    o.build.result = .ok g ∧ ¬ Admitted o.settings o.connections .miner ∧
      Admitted (lastAccepted o.settings before) o.connections .miner ∧
      ((g.afterAll before).calls o.world 5 u).map CallTrace.call = [.publish .explorer "00"] ∧
      Admitted (lastAccepted o.settings before) o.connections .explorer ∧ o.build.allCalls = [] ∧
      ∀ t ∈ (g.afterAll before).calls o.world 5 u, t.call.family? ≠ some .miner := by
  intro o g before u
  have hbuild : o.build.result = .ok g := by decide
  have hnot : ¬ Admitted o.settings o.connections .miner :=
    fun h => h.notExcluded (List.mem_singleton.mpr rfl)
  have hadmitted : Admitted (lastAccepted o.settings before) o.connections .miner :=
    admitsMiners_iff.mp rfl
  have hcalls : ((g.afterAll before).calls o.world 5 u).map CallTrace.call =
      [.publish .explorer "00"] := by decide
  obtain ⟨heligible, hout⟩ := calls_eligible_for_life o g hbuild before o.world 5 u
  obtain ⟨hbuild', hout⟩ := hout hnot
  obtain ⟨t, ht, hcall⟩ := List.mem_map.mp (hcalls ▸ List.mem_singleton.mpr rfl)
  have ht' := heligible t ht
  rw [hcall] at ht'
  exact ⟨hbuild, hnot, hadmitted, hcalls, ht'.2, hbuild', hout⟩

end TxGateway
