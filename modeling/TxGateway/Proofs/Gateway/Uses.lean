import TxGateway.Gateway
import TxGateway.Proofs.FeeSurvey.Survivors

namespace TxGateway

/-! # A gateway in use

A gateway is built once and then used in any order. Only an update changes it, and only its
settings.

* `Origin` is what a gateway is built from, and `build_eq_ok` tells what gateways come out of that.
* `Use` is what a caller may do with it, and `Gateway.calls` are the calls that this leads to.
* `broadcast_contacts`, `search_contacts` and `race_contacts` tell which providers these go to.
* `afterAll_settings`, `afterAll_miners` and `afterAll_connections` are the state after many uses.
-/

/-! ## Building -/

/-- What a gateway is built from. -/
structure Origin where
  /-- How the outside responds to probes. -/
  world : World
  start : Instant
  /-- The time that probed miners are marked with. -/
  clock : Timestamp
  settings : Settings
  connections : Connections

namespace Origin

def build (o : Origin) : Run (Except Failure Gateway) :=
  Gateway.build o.world o.start o.clock o.settings o.connections

/-- The survey of the miners, where one is made. -/
def survey (o : Origin) : Run (Except Failure FeeSurvey.Selection) :=
  FeeSurvey.run o.world o.start o.clock (o.settings.limit .feeProbe) o.settings.useQuotedFees
    (o.settings.miners .broadcast) (o.settings.miners .query)

/-- A gateway is built from valid settings, either without its miners or with those that a survey
has left. -/
theorem build_eq_ok {o : Origin} {g : Gateway} (h : o.build.result = .ok g) :
    o.settings.validate = .ok () ∧
      ((Roster.admitsMiners o.settings o.connections = false ∧
          g = Gateway.withoutMiners o.settings o.connections) ∨
        (Roster.admitsMiners o.settings o.connections = true ∧
          ∃ x, o.survey.result = .ok x ∧
            g = Gateway.withSelection o.settings o.connections x)) := by
  unfold build Gateway.build at h
  split at h
  · cases h
  · next hvalid =>
    refine ⟨hvalid, ?_⟩
    split at h
    · next hadmits =>
      refine .inr ⟨hadmits, ?_⟩
      change o.survey.result.map _ = _ at h
      cases hx : o.survey.result with
      | error e =>
        rw [hx] at h
        cases h
      | ok x =>
        rw [hx] at h
        cases h
        exact ⟨x, rfl, rfl⟩
    · next hadmits =>
      cases h
      exact .inl ⟨Bool.eq_false_of_not_eq_true hadmits, rfl⟩

/-- Building calls nobody, unless miners take part; then it asks each of the broadcast list for its
fee. -/
theorem build_calls {o : Origin} (hvalid : o.settings.validate = .ok ()) :
    o.build.allCalls.map CallTrace.call =
      if Roster.admitsMiners o.settings o.connections then
        (o.settings.miners .broadcast).map fun m => .quote m.dialect m
      else [] := by
  unfold build Gateway.build
  simp only [hvalid]
  split
  · show o.survey.allCalls.map CallTrace.call = _
    exact FeeSurvey.run_calls _ _ _ _ _ _ _
  · rfl

end Origin

/-! ## Using -/

/-- What a caller may do with a gateway. -/
inductive Use where
  | update (settings : Settings)
  | broadcast (id hex : String) (limit : Nat) (latch : Latch)
  | search (id : String) (wanted : Inclusion) (limit : Nat)
  | race (id : String) (wanted : Inclusion) (limit : Nat)
  | verify (roots : List RootClaim)

/-- The settings that a use puts in place, if they are valid. -/
def Use.accepted? : Use → Option Settings
  | .update s =>
    match s.validate with
    | .ok () => some s
    | .error _ => none
  | _ => none

/-- The last settings that were put in place. -/
def lastAccepted (s : Settings) (uses : List Use) : Settings :=
  (uses.filterMap Use.accepted?).getLastD s

namespace Gateway

/-- The calls that a use leads to, when it begins at an instant. -/
def calls (g : Gateway) (w : World) (start : Instant) : Use → List CallTrace
  | .update _ => []
  | .broadcast id hex limit latch => (g.broadcast w start id hex limit latch).allCalls
  | .search id wanted limit => (g.search w start id wanted limit).allCalls
  | .race id wanted limit => (g.race w start id wanted limit).allCalls
  | .verify roots => (g.verify w start roots).allCalls

section

variable {g : Gateway} {w : World} {start : Instant} {id hex : String} {wanted : Inclusion}
  {limit : Nat} {latch : Latch} {t : CallTrace}

theorem broadcast_contacts (h : t ∈ (g.broadcast w start id hex limit latch).allCalls) :
    (∃ p ∈ g.providers .broadcast, t.call = p.submitCall hex) ∨
      ∃ p ∈ g.providers .query, t.call = p.lookUpCall id := by
  unfold broadcast at h
  split at h
  · cases h
  · split at h
    · cases h
    · exact Broadcast.run_contacts h

theorem search_contacts (h : t ∈ (g.search w start id wanted limit).allCalls) :
    ∃ p ∈ g.providers .query, t.call = p.lookUpCall id := by
  unfold search at h
  split at h
  · cases h
  · rw [Run.allCalls, List.append_nil] at h
    exact (Search.makes_inOrder _ _ _ _).call h

theorem race_contacts (h : t ∈ (g.race w start id wanted limit).allCalls) :
    ∃ p ∈ g.providers .query, t.call = p.lookUpCall id := by
  unfold race at h
  split at h
  · cases h
  · exact Race.run_contacts h

end

/-- The gateway after a use. -/
def after (g : Gateway) : Use → Gateway
  | .update s =>
    match g.update s with
    | .ok g' => g'
    | .error _ => g
  | _ => g

/-- The gateway after uses in a row. -/
def afterAll (g : Gateway) (uses : List Use) : Gateway := uses.foldl after g

variable (g : Gateway)

/-- A use replaces the settings if it has valid ones, and leaves everything else as it was. -/
theorem after_eq (u : Use) : g.after u = { g with settings := u.accepted?.getD g.settings } := by
  cases u with
  | update s =>
    cases h : s.validate with
    | error v => simp [after, update, Use.accepted?, h]
    | ok _ => simp [after, update, Use.accepted?, h]
  | _ => rfl

theorem afterAll_eq (uses : List Use) :
    g.afterAll uses = { g with settings := lastAccepted g.settings uses } := by
  induction uses generalizing g with
  | nil => rfl
  | cons u rest ih =>
    -- what the first use puts in place stands until a later one replaces it
    have hlast : lastAccepted g.settings (u :: rest) =
        lastAccepted (u.accepted?.getD g.settings) rest := by
      unfold lastAccepted
      cases h : u.accepted? with
      | none => rw [List.filterMap_cons_none h, Option.getD_none]
      | some s => rw [List.filterMap_cons_some h, List.getLastD_cons, Option.getD_some]
    rw [hlast]
    show (g.after u).afterAll rest = _
    rw [ih, after_eq]

@[simp] theorem afterAll_settings (uses : List Use) :
    (g.afterAll uses).settings = lastAccepted g.settings uses := by
  rw [afterAll_eq]

@[simp] theorem afterAll_miners (uses : List Use) : (g.afterAll uses).miners = g.miners := by
  rw [afterAll_eq]

@[simp] theorem afterAll_connections (uses : List Use) :
    (g.afterAll uses).connections = g.connections := by
  rw [afterAll_eq]

end Gateway

end TxGateway
