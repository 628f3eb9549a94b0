import TxGateway.CommandLine.Run
import TxGateway.Proofs.Gateway.Soundness
import TxGateway.Proofs.Secrecy.Operations

namespace TxGateway

/-! # Secrets do not show

Two gateways are built from settings that differ in nothing but secrets and are used alike, and no
answer from outside depends on a token. Nobody can tell one from the other by what is written, handed
back or called, but for the tokens in the calls themselves.

* `Session.play` is a session after uses in a row, and `Session.shown` is what these hand back, with
  their calls.
* `Gateway.build_veiled`, `Gateway.serve_veiled` and `Session.use_veiled`: to mask what goes in
  and to redact what comes out are the same.
* `secrets_do_not_show` compares two runs, which have the same mask.
-/

/-! ## What is left without secrets -/

theorem CallTrace.redacted_comp_redacted : redacted ∘ redacted = redacted := by
  funext c
  simp only [Function.comp_apply, redacted, Call.redacted_redacted]

theorem Run.redacted_redacted {α : Type} (r : Run α) : r.redacted.redacted = r.redacted := by
  simp only [redacted, List.map_map, CallTrace.redacted_comp_redacted]

namespace Gateway

/-- The gateway with the secrets in it redacted. -/
def redacted (g : Gateway) : Gateway :=
  { g with settings := g.settings.redacted, miners := g.miners.redacted }

def masked (g : Gateway) : Gateway :=
  { g with settings := g.settings.masked, miners := g.miners.redacted }

/-- Gateways differ in nothing but what their secrets are. -/
structure Alike (g k : Gateway) : Prop where
  settings : g.settings.Alike k.settings
  miners : g.miners.redacted = k.miners.redacted
  fee : g.fee = k.fee
  connections : g.connections = k.connections

theorem alike_iff {g k : Gateway} : g.Alike k ↔ g.masked = k.masked := by
  obtain ⟨settings, miners, fee, connections⟩ := g
  obtain ⟨settings', miners', fee', connections'⟩ := k
  simp only [masked, Gateway.mk.injEq, ← Settings.alike_iff]
  constructor
  · rintro ⟨hsettings, hminers, hfee, hconnections⟩
    exact ⟨hsettings, hminers, hfee, hconnections⟩
  · rintro ⟨hsettings, hminers, hfee, hconnections⟩
    exact ⟨hsettings, hminers, hfee, hconnections⟩

theorem redacted_masked (g : Gateway) : g.masked.redacted = g.redacted := by
  have hminers : g.miners.redacted.redacted = g.miners.redacted := by
    simp only [MinerLists.redacted, List.map_map, Function.comp_def, Miner.redacted_redacted]
  simp only [masked, redacted, Settings.redacted_masked, hminers]

theorem providers_masked (g : Gateway) (p : Purpose) :
    g.masked.providers p = (g.providers p).map Provider.redacted :=
  Roster.providers_masked g.settings g.miners g.connections p

theorem update_masked (g : Gateway) (s : Settings) :
    g.masked.update s.masked = (g.update s).map masked := by
  unfold update
  rw [s.validate_masked]
  cases s.validate <;> rfl

end Gateway

/-! ## Operations of a gateway -/

/-- What a use hands back; a broadcast does so partly through its latch. -/
inductive Use.Outcome where
  | updated (result : Except Failure Unit)
  | sent (outcome : Broadcast.Outcome)
  | found (result : Except Failure TxRecord)
  | verified (result : Except Failure Unit)

/-- A use that begins at an instant. -/
def Gateway.serve (g : Gateway) (w : World) (now : Instant) : Use → Run Use.Outcome
  | .update s => Run.done (.updated ((g.update s).map fun _ => ())) now
  | .broadcast id hex limit latch => (g.broadcast w now id hex limit latch).map .sent
  | .search id wanted limit => (g.search w now id wanted limit).map .found
  | .race id wanted limit => (g.race w now id wanted limit).map .found
  | .verify roots => (g.verify w now roots).map .verified

def Use.masked : Use → Use
  | .update s => .update s.masked
  | u => u

/-- The same use, or updates with settings that are alike. -/
inductive Use.Alike : Use → Use → Prop where
  | update {a b : Settings} (h : a.Alike b) : Alike (.update a) (.update b)
  | same (u : Use) : Alike u u

theorem Use.Alike.masked_eq {u u' : Use} (h : u.Alike u') : u.masked = u'.masked := by
  cases h with
  | update h => exact congrArg Use.update (Settings.alike_iff.mp h)
  | same => rfl

/-- A use that begins some time after the one before it. -/
structure TimedUse where
  pause : Nat
  use : Use

namespace TimedUse

def masked (u : TimedUse) : TimedUse := { u with use := u.use.masked }

/-- The same use, or updates with settings that are alike, after the same time. -/
structure Alike (u u' : TimedUse) : Prop where
  pause : u.pause = u'.pause
  use : u.use.Alike u'.use

theorem map_masked_eq {us vs : List TimedUse} (h : List.Forall₂ Alike us vs) :
    us.map masked = vs.map masked := by
  induction h with
  | nil => rfl
  | cons hu _ ih => simp only [List.map_cons, masked, hu.pause, hu.use.masked_eq, ih]

end TimedUse

section

variable {w v : World} (h : w.Veiled v)
include h

namespace Gateway

/-- To build from the mask is to build and redact. -/
theorem build_veiled (start : Instant) (clock : Timestamp) (s : Settings) (c : Connections) :
    build v start clock s.masked c =
      ((build w start clock s c).map (Except.map masked)).redacted := by
  unfold build
  rw [s.validate_masked]
  cases s.validate with
  | error violation => rfl
  | ok _ =>
    have hadmits : Roster.admitsMiners s.masked c = Roster.admitsMiners s c := rfl
    simp only [hadmits]
    split
    · -- the mask has the same limit and the same miners without their tokens
      have hsurvey : FeeSurvey.run v start clock (s.masked.limit .feeProbe)
          s.masked.useQuotedFees (s.masked.miners .broadcast) (s.masked.miners .query) =
          ((FeeSurvey.run w start clock (s.limit .feeProbe) s.useQuotedFees
            (s.miners .broadcast) (s.miners .query)).map
            (Except.map FeeSurvey.Selection.redacted)).redacted := by
        rw [s.miners_masked, s.miners_masked]
        exact FeeSurvey.run_veiled h start clock (s.limit .feeProbe) s.useQuotedFees
          (s.miners .broadcast) (s.miners .query)
      have hselection : ∀ x : Except Failure FeeSurvey.Selection,
          (x.map FeeSurvey.Selection.redacted).map (withSelection s.masked c) =
            (x.map (withSelection s c)).map masked := by
        intro x
        cases x <;> rfl
      simp only [hsurvey, Run.map, Run.redacted, hselection]
    · simp only [Run.done, Run.map, Run.redacted, withoutMiners, Settings.miners_masked]
      rfl

variable (g : Gateway) (now : Instant)

theorem broadcast_veiled (id hex : String) (limit : Nat) (latch : Latch) :
    g.masked.broadcast v now id hex limit latch =
      (g.broadcast w now id hex limit latch).redacted := by
  unfold broadcast
  split
  · rfl
  · split
    · rfl
    · rw [providers_masked, providers_masked]
      exact Broadcast.run_veiled h now (g.providers .broadcast)
        ⟨id, hex, now + limit, g.providers .query, g.settings.limit .query⟩ latch

theorem search_veiled (id : String) (wanted : Inclusion) (limit : Nat) :
    g.masked.search v now id wanted limit = (g.search w now id wanted limit).redacted := by
  unfold search
  split
  · rfl
  · rw [providers_masked, Search.inOrder_veiled h]
    rfl

theorem race_veiled (id : String) (wanted : Inclusion) (limit : Nat) :
    g.masked.race v now id wanted limit = (g.race w now id wanted limit).redacted := by
  unfold race
  split
  · rfl
  · rw [providers_masked, Race.run_veiled h]
    rfl

theorem verify_veiled (roots : List RootClaim) :
    g.masked.verify v now roots = (g.verify w now roots).redacted :=
  Verification.run_veiled h now g.connections.verifiers roots _ _

theorem serve_veiled (u : Use) :
    g.masked.serve v now u.masked = (g.serve w now u).redacted := by
  cases u with
  | update s =>
    simp only [serve, Use.masked, update_masked]
    cases g.update s <;> rfl
  | broadcast id hex limit latch =>
    simp only [serve, Use.masked, broadcast_veiled h]
    rfl
  | search id wanted limit =>
    simp only [serve, Use.masked, search_veiled h]
    rfl
  | race id wanted limit =>
    simp only [serve, Use.masked, race_veiled h]
    rfl
  | verify roots =>
    simp only [serve, Use.masked, verify_veiled h]
    rfl

end Gateway

/-- A command prints the same, and what the gateway tells of its miners shows no tokens. -/
theorem CommandLine.Command.run_veiled (command : Command) (g : Gateway) (now : Instant) :
    command.run g.masked v now = (command.run g w now).redacted := by
  have hlimit : ∀ l, g.masked.settings.limit l = g.settings.limit l := fun _ => rfl
  cases command with
  | broadcast id hex =>
    simp only [run, hlimit, Gateway.broadcast_veiled h]
    rfl
  | search id wanted fastest =>
    simp only [run, hlimit]
    cases Inclusion.parse? wanted with
    | none => rfl
    | some inclusion =>
      cases fastest with
      | true =>
        simp only [if_true, Gateway.race_veiled h]
        rfl
      | false =>
        simp only [if_false, Bool.false_eq_true, Gateway.search_veiled h]
        rfl
  | verify claims =>
    simp only [run, Gateway.verify_veiled h]
    rfl
  | miners =>
    have hminers : minersResult g.masked = minersResult g := by
      simp only [minersResult, Gateway.masked, MinerLists.redacted, List.map_map,
        Function.comp_def, Miner.toDocument_redacted]
      rfl
    simp only [run, hminers]
    rfl

end

/-! ## Sessions -/

namespace Session

def masked (s : Session) : Session where
  gateway := s.gateway.masked
  clock := s.clock
  calls := s.calls.map CallTrace.redacted
  stragglers := s.stragglers.map CallTrace.redacted

/-- Sessions differ in nothing but what the secrets in them are. -/
structure Alike (s t : Session) : Prop where
  gateway : s.gateway.Alike t.gateway
  clock : s.clock = t.clock
  calls : s.calls.map CallTrace.redacted = t.calls.map CallTrace.redacted
  stragglers : s.stragglers.map CallTrace.redacted = t.stragglers.map CallTrace.redacted

theorem alike_iff {s t : Session} : s.Alike t ↔ s.masked = t.masked := by
  simp only [masked, Session.mk.injEq, ← Gateway.alike_iff]
  constructor
  · rintro ⟨hgateway, hclock, hcalls, hstragglers⟩
    exact ⟨hgateway, hclock, hcalls, hstragglers⟩
  · rintro ⟨hgateway, hclock, hcalls, hstragglers⟩
    exact ⟨hgateway, hclock, hcalls, hstragglers⟩

/-- The session when a use is about to begin. -/
def before (s : Session) (u : TimedUse) : Session := s.after (s.pause u.pause)

/-- The session after timed uses in a row. -/
def play (w : World) (s : Session) (us : List TimedUse) : Session :=
  us.foldl (fun s u => (s.before u).use w u.use) s

/-- What timed uses in a row show: what each hands back, when it is over, and its calls. -/
def shown (w : World) (s : Session) : List TimedUse → List (Run Use.Outcome)
  | [] => []
  | u :: rest =>
    ((s.before u).gateway.serve w (s.before u).clock u.use).redacted ::
      shown w ((s.before u).use w u.use) rest

theorem after_masked {α : Type} (s : Session) (step : Run α) :
    s.masked.after step.redacted = (s.after step).masked := by
  simp only [after, masked, Run.redacted, List.map_append, List.filter_map]
  rfl

section

variable {w v : World} (h : w.Veiled v) (s : Session)
include h

/-- A use of the mask leaves the mask of what the use leaves. -/
theorem use_veiled (u : Use) : s.masked.use v u.masked = (s.use w u).masked := by
  cases u with
  | update settings =>
    have hupdate : s.masked.gateway.update settings.masked =
        (s.gateway.update settings).map Gateway.masked := s.gateway.update_masked settings
    simp only [use, Use.masked, hupdate]
    cases s.gateway.update settings <;> rfl
  | broadcast id hex limit latch =>
    rw [use, ← after_masked, ← Gateway.broadcast_veiled h]
    rfl
  | search id wanted limit =>
    rw [use, ← after_masked, ← Gateway.search_veiled h]
    rfl
  | race id wanted limit =>
    rw [use, ← after_masked, ← Gateway.race_veiled h]
    rfl
  | verify roots =>
    rw [use, ← after_masked, ← Gateway.verify_veiled h]
    rfl

omit h in
theorem before_masked (u : TimedUse) : s.masked.before u.masked = (s.before u).masked :=
  s.after_masked (s.pause u.pause)

theorem play_veiled (us : List TimedUse) :
    s.masked.play v (us.map TimedUse.masked) = (s.play w us).masked := by
  induction us generalizing s with
  | nil => rfl
  | cons u rest ih =>
    show ((s.masked.before u.masked).use v u.use.masked).play v (rest.map TimedUse.masked) = _
    rw [before_masked, use_veiled h, ih]
    rfl

theorem shown_veiled (us : List TimedUse) :
    s.masked.shown v (us.map TimedUse.masked) = s.shown w us := by
  induction us generalizing s with
  | nil => rfl
  | cons u rest ih =>
    have hserve : (s.before u).masked.gateway.serve v (s.before u).masked.clock
        u.masked.use = ((s.before u).gateway.serve w (s.before u).clock u.use).redacted :=
      (s.before u).gateway.serve_veiled h (s.before u).clock u.use
    have huse : (s.before u).masked.use v u.masked.use = ((s.before u).use w u.use).masked :=
      (s.before u).use_veiled h u.use
    rw [List.map_cons, shown, shown, before_masked, hserve, Run.redacted_redacted, huse, ih]

end

/-! ## Two runs -/

variable {w v : World} {s t : Session} {us vs : List TimedUse}

theorem Alike.play (h : s.Alike t) (hworld : w.Agree v)
    (huses : List.Forall₂ TimedUse.Alike us vs) : (s.play w us).Alike (t.play v vs) := by
  rw [alike_iff, ← play_veiled hworld.veiled, ← play_veiled hworld.veiled_self, alike_iff.mp h,
    TimedUse.map_masked_eq huses]

theorem Alike.shown_eq (h : s.Alike t) (hworld : w.Agree v)
    (huses : List.Forall₂ TimedUse.Alike us vs) : s.shown w us = t.shown v vs :=
  calc s.shown w us
      = s.masked.shown v (us.map TimedUse.masked) := (s.shown_veiled hworld.veiled us).symm
    _ = t.masked.shown v (vs.map TimedUse.masked) := by
      rw [alike_iff.mp h, TimedUse.map_masked_eq huses]
    _ = t.shown v vs := t.shown_veiled hworld.veiled_self vs

end Session

namespace Gateway

variable {w v : World} {g k : Gateway}

theorem Alike.providers_eq (h : g.Alike k) (p : Purpose) :
    (g.providers p).map Provider.redacted = (k.providers p).map Provider.redacted := by
  rw [← providers_masked, ← providers_masked, alike_iff.mp h]

theorem Alike.command_eq (h : g.Alike k) (hworld : w.Agree v) (command : CommandLine.Command)
    (now : Instant) : (command.run g w now).redacted = (command.run k v now).redacted := by
  rw [← command.run_veiled hworld.veiled, ← command.run_veiled hworld.veiled_self,
    alike_iff.mp h]

variable {a b : Settings} {start : Instant} {clock : Timestamp} {c : Connections}

/-- Building from settings that are alike ends alike: in the same error, or with gateways that are
alike. -/
theorem build_alike (h : a.Alike b) (hworld : w.Agree v) :
    ((build w start clock a c).map (Except.map masked)).redacted =
      ((build v start clock b c).map (Except.map masked)).redacted := by
  rw [← build_veiled hworld.veiled, ← build_veiled hworld.veiled_self, Settings.alike_iff.mp h]

theorem alike_of_build (h : a.Alike b) (hworld : w.Agree v)
    (hg : (build w start clock a c).result = .ok g)
    (hk : (build v start clock b c).result = .ok k) : g.Alike k := by
  have hbuild : ((build w start clock a c).map (Except.map masked)).redacted =
      ((build v start clock b c).map (Except.map masked)).redacted := build_alike h hworld
  have hresult := congrArg Run.result hbuild
  simp only [Run.redacted, Run.map, hg, hk] at hresult
  exact alike_iff.mpr (Except.ok.inj hresult)

end Gateway

theorem Session.start_alike {x y : Run (Except Failure Gateway)} {g k : Gateway} (h : g.Alike k)
    (hbuild : (x.map (Except.map Gateway.masked)).redacted =
      (y.map (Except.map Gateway.masked)).redacted) :
    (Session.start g x).Alike (Session.start k y) where
  gateway := h
  clock := congrArg (fun r => r.moment.instant) hbuild
  calls := congrArg Run.calls hbuild
  stragglers := congrArg Run.stragglers hbuild

/-- Settings that differ in nothing but secrets have the same violation, are written the same, and
let the same families take part for the same time. If answers from outside do not depend on tokens,
building ends alike with both, and gateways that are then used alike hand back the same at the same
time, with the same calls but for the tokens in them. At any time these gateways still differ in
nothing but secrets, have the same providers, and print the same for a command. -/
theorem secrets_do_not_show {a b : Settings} (h : a.Alike b) :
    a.validate = b.validate ∧ a.toDocument = b.toDocument ∧
    (∀ p, Settings.minersDocument (a.miners p) = Settings.minersDocument (b.miners p)) ∧
    (∀ l, a.limit l = b.limit l) ∧ (∀ f, a.isExcluded f = b.isExcluded f) ∧
    a.nodeProxyCredential?.isSome = b.nodeProxyCredential?.isSome ∧
    ∀ w v : World, w.Agree v → ∀ start clock c,
      let x := Gateway.build w start clock a c
      let y := Gateway.build v start clock b c
      (x.map (Except.map Gateway.redacted)).redacted =
        (y.map (Except.map Gateway.redacted)).redacted ∧
      ∀ g k, x.result = .ok g → y.result = .ok k →
        ∀ us vs, List.Forall₂ TimedUse.Alike us vs →
          let s := (Session.start g x).play w us
          let t := (Session.start k y).play v vs
          (Session.start g x).shown w us = (Session.start k y).shown v vs ∧ s.Alike t ∧
          (∀ p, (s.gateway.providers p).map Provider.redacted =
            (t.gateway.providers p).map Provider.redacted) ∧
          ∀ (command : CommandLine.Command) now,
            (command.run s.gateway w now).redacted = (command.run t.gateway v now).redacted := by
  refine ⟨h.validate_eq, h.toDocument_eq, h.minersDocument_eq, fun l => ?_, fun f => ?_,
    h.isSome_nodeProxyCredential?_eq, ?_⟩
  · exact congrArg (fun s => s.limit l) h.redacted
  · exact congrArg (fun s => s.isExcluded f) h.redacted
  intro w v hworld start clock c x y
  have hbuild : (x.map (Except.map Gateway.masked)).redacted =
      (y.map (Except.map Gateway.masked)).redacted := Gateway.build_alike h hworld
  refine ⟨?_, ?_⟩
  · -- what is redacted can be read off the mask
    have hmasked : ∀ z : Run (Except Failure Gateway),
        (z.map (Except.map Gateway.redacted)).redacted =
          (z.map (Except.map Gateway.masked)).redacted.map (Except.map Gateway.redacted) := by
      intro z
      cases hz : z.result <;>
        simp [Run.map, Run.redacted, hz, Except.map, Gateway.redacted_masked]
    rw [hmasked, hmasked, hbuild]
  · intro g k hg hk us vs huses s t
    have hstart : (Session.start g x).Alike (Session.start k y) :=
      Session.start_alike (Gateway.alike_of_build h hworld hg hk) hbuild
    have hend : s.Alike t := hstart.play hworld huses
    exact ⟨hstart.shown_eq hworld huses, hend, hend.gateway.providers_eq,
      hend.gateway.command_eq hworld⟩

/-! ## Scripted services -/

/-- Scripts know miners by their names only. -/
theorem Script.world_agree (s : Script) : s.world.Agree s.world := by
  refine World.agree_self fun now c => ?_
  cases c with
  | quote dialect m => cases dialect <;> rfl
  | _ => rfl

namespace Keyed

def minerWith (word : String) : Miner := { theMiner with token := some ⟨word⟩ }

/-- Settings in which every secret is the same word. -/
def settings (word : String) : Settings where
  broadcastMiners := some [minerWith word]
  queryMiners := some [minerWith word]
  explorer := ⟨"https://explorer", some ⟨word⟩⟩
  nodeProxy := some ⟨"https://node", some ⟨word⟩⟩
  verifiers := [⟨"https://verifier", ⟨word⟩⟩]

theorem settings_alike {first second : String}
    (h : Text.isBlankText first = Text.isBlankText second) :
    (settings first).Alike (settings second) :=
  ⟨rfl, h⟩

/-- A miner that quotes a fee and refuses transactions, and a node that takes them. -/
def script : Script where
  miners := some [("Taal", {
    fee := .ok ⟨1, 50⟩
    submission := .ok (Scripted.refusing "Taal" "fee too low") })]
  nodeProxy := some { name := "node", published := .ok Search.trialId }

def clock : Timestamp := ⟨⟨2025, 1, 1⟩, 12, 0, 0, 0⟩

def build (word : String) : Run (Except Failure Gateway) :=
  Gateway.build script.world 0 clock (settings word) script.connections

/-- The miner after its fee has been asked for. -/
def probed (word : String) : Miner :=
  { minerWith word with fee := some ⟨1, 50⟩, probedAt := some clock }

/-- The gateway that is built. -/
def gateway (word : String) : Gateway :=
  Gateway.withSelection (settings word) script.connections
    ⟨[probed word], [minerWith word], ⟨1, 50⟩⟩

/-- A broadcast, an update, and another broadcast. -/
def uses (word : String) : List TimedUse :=
  [⟨0, .broadcast Search.trialId "00" 1000 {}⟩, ⟨7, .update (settings word)⟩,
    ⟨7, .broadcast Search.trialId "00" 1000 {}⟩]

/-- The calls in which the miner is given its token: for its fee, and in each broadcast. -/
def keyedCalls (word : String) : List Call :=
  [.quote .merchant (minerWith word), .submit (probed word) "00", .submit (probed word) "00"]

theorem uses_alike {first second : String} (h : (settings first).Alike (settings second)) :
    List.Forall₂ TimedUse.Alike (uses first) (uses second) :=
  .cons ⟨rfl, .same _⟩ (.cons ⟨rfl, .update h⟩ (.cons ⟨rfl, .same _⟩ .nil))

end Keyed

open Keyed in
/-- Gateways with different secrets, in which other secrets are put between two broadcasts. Their
calls do carry the secrets. -/
theorem keyed_gateways_do_not_show :
    let s := Session.start (gateway "one") (build "one")
    let t := Session.start (gateway "two") (build "two")
    settings "one" ≠ settings "two" ∧
      (settings "one").toDocument = (settings "two").toDocument ∧
      (build "one").result = .ok (gateway "one") ∧ (build "two").result = .ok (gateway "two") ∧
      keyedCalls "one" ⊆ (s.play script.world (uses "three")).calls.map CallTrace.call ∧
      keyedCalls "two" ⊆ (t.play script.world (uses "four")).calls.map CallTrace.call ∧
      s.shown script.world (uses "three") = t.shown script.world (uses "four") ∧
      (s.play script.world (uses "three")).Alike (t.play script.world (uses "four")) := by
  intro s t
  have hone : (build "one").result = .ok (gateway "one") := by decide +kernel
  have htwo : (build "two").result = .ok (gateway "two") := by decide +kernel
  have hbuilt : (settings "one").Alike (settings "two") := settings_alike (by decide)
  have hupdated : (settings "three").Alike (settings "four") := settings_alike (by decide)
  obtain ⟨-, hdocument, -, -, -, -, hworlds⟩ := secrets_do_not_show hbuilt
  obtain ⟨-, hgateways⟩ :=
    hworlds script.world script.world script.world_agree 0 clock script.connections
  obtain ⟨hshown, hend, -, -⟩ := hgateways _ _ hone htwo _ _ (uses_alike hupdated)
  exact ⟨by decide, hdocument, hone, htwo, by decide +kernel, by decide +kernel, hshown, hend⟩

end TxGateway
