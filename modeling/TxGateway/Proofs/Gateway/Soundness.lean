import TxGateway.Gateway.Session
import TxGateway.Proofs.FeeSurvey.Selection
import TxGateway.Proofs.Gateway.Uses
import TxGateway.Scripted

namespace TxGateway

/-! # A gateway stays sound

Building hands out no gateway but a sound one, and nothing that is done with a gateway makes it
unsound. What a session shows of the gateway after any uses is therefore known: the last settings
that were accepted, and for the rest what was there at first.

* `Sound` is the invariant: `sound_of_build` establishes it, and `Sound.use` is the step.
* `gateway_sound_for_life` tells the state of a gateway after any uses.
-/

/-- Settings are valid, the fee can be used, and if the miners were probed then some are left for
each purpose, all those to broadcast to with a fee. -/
structure Sound (g : Gateway) : Prop where
  valid : g.settings.validate = .ok ()
  fee : 0 < g.fee.bytes
  broadcast : g.miners.probed = true → g.miners.broadcast ≠ []
  query : g.miners.probed = true → g.miners.query ≠ []
  miners : g.miners.probed = true →
    ∀ m ∈ g.miners.broadcast, ∃ fee, m.fee = some fee ∧ 0 < fee.bytes

/-! ## Building -/

namespace Origin

variable {o : Origin} {g : Gateway}

theorem sound_of_build (h : o.build.result = .ok g) : Sound g := by
  obtain ⟨hvalid, ⟨-, rfl⟩ | ⟨-, x, hx, rfl⟩⟩ := build_eq_ok h
  -- without a survey the fee is the standard one, and nothing is said of the miners
  · have hfee : 0 < Fee.standard.bytes := by decide
    exact ⟨hvalid, hfee, (fun h => nomatch h), (fun h => nomatch h), fun h => nomatch h⟩
  · obtain ⟨hbroadcast, hquery, hfees, hfee⟩ := FeeSurvey.run_eq_ok hx
    refine ⟨hvalid, of_decide_eq_true hfee, fun _ => hbroadcast, fun _ => hquery, ?_⟩
    intro _ m hm
    obtain ⟨fee, hmfee, hfee⟩ := hfees m hm
    exact ⟨fee, hmfee, of_decide_eq_true hfee⟩

/-- The settings that a gateway is built from are the first ones that it holds. -/
theorem settings_of_build (h : o.build.result = .ok g) : g.settings = o.settings := by
  obtain ⟨-, ⟨-, rfl⟩ | ⟨-, x, -, rfl⟩⟩ := build_eq_ok h
  · rfl
  · rfl

theorem build_of_violation {v : Violation} (h : o.settings.validate = .error v) :
    o.build.result = .error (.invalid v) := by
  unfold build Gateway.build
  rw [h]
  rfl

theorem build_of_survey (hvalid : o.settings.validate = .ok ())
    (hadmits : Roster.admitsMiners o.settings o.connections = true) :
    o.build.result = o.survey.result.map (Gateway.withSelection o.settings o.connections) := by
  unfold build Gateway.build
  simp only [hvalid, hadmits, if_true]
  rfl

end Origin

/-! ## Using -/

namespace Session

variable (w : World) (s : Session)

/-- The session after a use. -/
def use : Use → Session
  | .update settings =>
    match s.gateway.update settings with
    | .ok g => { s with gateway := g }
    | .error _ => s
  | .broadcast id hex limit latch => s.after (s.gateway.broadcast w s.clock id hex limit latch)
  | .search id wanted limit => s.after (s.gateway.search w s.clock id wanted limit)
  | .race id wanted limit => s.after (s.gateway.race w s.clock id wanted limit)
  | .verify roots => s.after (s.gateway.verify w s.clock roots)

/-- The session after uses in a row. -/
def useAll (uses : List Use) : Session := uses.foldl (use w) s

/-- Operations take the gateway as it is; only an update touches it. -/
theorem use_gateway (u : Use) : (s.use w u).gateway = s.gateway.after u := by
  cases u with
  | update settings =>
    simp only [use, Gateway.after]
    cases s.gateway.update settings with
    | ok g => rfl
    | error f => rfl
  | _ => rfl

theorem useAll_gateway (uses : List Use) :
    (s.useAll w uses).gateway = s.gateway.afterAll uses := by
  induction uses generalizing s with
  | nil => rfl
  | cons u rest ih =>
    show ((s.use w u).useAll w rest).gateway = (s.gateway.after u).afterAll rest
    rw [ih, use_gateway]

variable {w s}

/-- Settings that are not valid are refused, and nothing else happens. -/
theorem use_of_violation {settings : Settings} {v : Violation}
    (h : settings.validate = .error v) :
    s.gateway.update settings = .error (.invalid v) ∧ s.use w (.update settings) = s := by
  have hupdate : s.gateway.update settings = .error (.invalid v) := by
    unfold Gateway.update
    rw [h]
  exact ⟨hupdate, by simp only [use, hupdate]⟩

end Session

theorem Sound.after {g : Gateway} (h : Sound g) (u : Use) : Sound (g.after u) := by
  rw [g.after_eq]
  refine ⟨?_, h.fee, h.broadcast, h.query, h.miners⟩
  -- settings that are put in place have been validated
  cases u with
  | update settings =>
    cases hvalid : settings.validate with
    | ok _ => simp [Use.accepted?, hvalid]
    | error v => simpa [Use.accepted?, hvalid] using h.valid
  | _ => exact h.valid

theorem Sound.use {s : Session} (h : Sound s.gateway) (w : World) (u : Use) :
    Sound (s.use w u).gateway := by
  rw [s.use_gateway]
  exact h.after u

theorem Sound.useAll {s : Session} (h : Sound s.gateway) (w : World) (uses : List Use) :
    Sound (s.useAll w uses).gateway := by
  induction uses generalizing s with
  | nil => exact h
  | cons u rest ih => exact ih (h.use w u)

/-- No gateway is built from settings that are not valid, nor after a survey that fails. After any
uses a gateway holds the last settings that were accepted, and these are valid; an update with
others changes nothing at all. Its miners and its fee are those that it was built with: if the
miners were probed there are some for each purpose, all those to broadcast to with a fee, and the
fee of the gateway can always be used. -/
theorem gateway_sound_for_life (o : Origin) :
    (∀ v, o.settings.validate = .error v → o.build.result = .error (.invalid v)) ∧
    (o.settings.validate = .ok () → Roster.admitsMiners o.settings o.connections = true →
      ∀ f, o.survey.result = .error f → o.build.result = .error f) ∧
    ∀ g, o.build.result = .ok g → ∀ (w : World) (uses : List Use),
      let s := (Session.start g o.build).useAll w uses
      s.gateway.settings = lastAccepted o.settings uses ∧
      s.gateway.settings.validate = .ok () ∧
      (∀ settings v, settings.validate = .error v →
        s.gateway.update settings = .error (.invalid v) ∧ s.use w (.update settings) = s) ∧
      s.gateway.miners = g.miners ∧ s.gateway.fee = g.fee ∧
      (s.gateway.miners.probed = true → s.gateway.miners.broadcast ≠ [] ∧
        s.gateway.miners.query ≠ [] ∧
        ∀ m ∈ s.gateway.miners.broadcast, ∃ fee, m.fee = some fee ∧ 0 < fee.bytes) ∧
      0 < s.gateway.fee.bytes := by
  refine ⟨fun v hv => Origin.build_of_violation hv, ?_, ?_⟩
  · intro hvalid hadmits f hf
    rw [Origin.build_of_survey hvalid hadmits, hf]
    rfl
  · intro g hg w uses s
    -- the invariant tells that the state is sound, and the uses tell which one it is
    have hsound : Sound s.gateway :=
      Sound.useAll (s := Session.start g o.build) (Origin.sound_of_build hg) w uses
    have hgateway : s.gateway = { g with settings := lastAccepted o.settings uses } := by
      rw [← Origin.settings_of_build hg, ← g.afterAll_eq uses]
      exact Session.useAll_gateway w _ uses
    refine ⟨by rw [hgateway], hsound.valid, ?_, by rw [hgateway], by rw [hgateway], ?_, hsound.fee⟩
    · exact fun settings v hv => Session.use_of_violation hv
    · exact fun hprobed => ⟨hsound.broadcast hprobed, hsound.query hprobed, hsound.miners hprobed⟩

/-- A miner for both purposes. -/
def theMiner : Miner := { id := "t", name := "Taal", url := "u" }

/-- An origin with one miner, which quotes a fee, or answers a probe otherwise. -/
def oneMiner (fee : Reply Fee) (settings : Settings) : Origin where
  world := ({ miners := some [("Taal", { fee })] } : Script).world
  start := 0
  clock := ⟨⟨2025, 1, 1⟩, 12, 0, 0, 0⟩
  settings := { settings with broadcastMiners := some [theMiner], queryMiners := some [theMiner] }
  connections := { miners := true }

/-- An update that is refused and one that is accepted, with an operation in between. -/
theorem gateway_sound_after_updates :
    let quoting := oneMiner (.ok ⟨1, 50⟩) {}
    let idle : Settings := { querySeconds := 0 }
    let left : Miner := { theMiner with fee := some ⟨1, 50⟩, probedAt := some quoting.clock }
    let g := Gateway.withSelection quoting.settings quoting.connections
      ⟨[left], [theMiner], ⟨1, 50⟩⟩
    let uses := [.update idle, .verify [], .update { network := .test }, .update idle]
    let s := (Session.start g quoting.build).useAll quoting.world uses
    quoting.build.result = .ok g ∧ idle.validate = .error (.zeroLimit .query) ∧
      s.gateway.settings = { network := .test } ∧ s.gateway.miners.broadcast = [left] ∧
      s.gateway.fee = ⟨1, 50⟩ ∧ s.use quoting.world (.update idle) = s ∧
      (oneMiner (.ok ⟨1, 50⟩) idle).build.result = .error (.invalid (.zeroLimit .query)) ∧
      (oneMiner (.ok ⟨1, 0⟩) {}).build.result = .error .noBroadcastMiners := by
  intro quoting idle left g uses s
  have hbuild : quoting.build.result = .ok g := by decide +kernel
  have hidle : idle.validate = .error (.zeroLimit .query) := by decide
  obtain ⟨-, -, hlife⟩ := gateway_sound_for_life quoting
  obtain ⟨hsettings, -, hrefused, hminers, hfee, -, -⟩ := hlife g hbuild quoting.world uses
  obtain ⟨hinvalid, -, -⟩ := gateway_sound_for_life (oneMiner (.ok ⟨1, 50⟩) idle)
  obtain ⟨-, hsurvey, -⟩ := gateway_sound_for_life (oneMiner (.ok ⟨1, 0⟩) {})
  refine ⟨hbuild, hidle, hsettings.trans ?_, ?_, hfee, (hrefused idle _ hidle).2,
    hinvalid _ (by decide), hsurvey (by decide) (by decide) _ (by decide +kernel)⟩
  · decide
  · rw [hminers]
    rfl

end TxGateway
