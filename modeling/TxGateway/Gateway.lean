import TxGateway.Operation.Broadcast
import TxGateway.Operation.FeeSurvey
import TxGateway.Operation.Race
import TxGateway.Operation.Verification
import TxGateway.Roster

namespace TxGateway

/-! # The gateway

A gateway holds settings that may be replaced, and miners and a fee that stay as they were found
when it was built. Each operation looks at the settings once, at its start.

* `Gateway.build` validates settings and surveys the miners.
* `Gateway.broadcast`, `Gateway.search`, `Gateway.race` and `Gateway.verify` are its operations.
* `Gateway.update` replaces the settings by valid ones.
-/

structure Gateway where
  settings : Settings
  miners : MinerLists
  /-- The fee that the survey chose. -/
  fee : Fee
  connections : Connections
deriving DecidableEq

namespace Gateway

/-- A gateway whose miners were not surveyed, and take no part. -/
def withoutMiners (s : Settings) (c : Connections) : Gateway where
  settings := s
  miners := ⟨s.miners .broadcast, s.miners .query, false⟩
  fee := Fee.standard
  connections := c

/-- A gateway with the miners that a survey left. -/
def withSelection (s : Settings) (c : Connections) (x : FeeSurvey.Selection) : Gateway where
  settings := s
  miners := ⟨x.broadcast, x.query, true⟩
  fee := x.fee
  connections := c

/-- Builds a gateway from settings, if they are valid and enough miners survive the survey. The
survey is left out where the settings let no miner take part. `clock` is the time that probed
miners are marked with. -/
def build (w : World) (start : Instant) (clock : Timestamp) (s : Settings) (c : Connections) :
    Run (Except Failure Gateway) :=
  match s.validate with
  | .error v => Run.done (.error (.invalid v)) start
  | .ok () =>
    if Roster.admitsMiners s c then
      let survey := FeeSurvey.run w start clock (s.limit .feeProbe) s.useQuotedFees
        (s.miners .broadcast) (s.miners .query)
      survey.map fun x => x.map (withSelection s c)
    else Run.done (.ok (withoutMiners s c)) start

/-- The providers for a purpose under the present settings. -/
def providers (g : Gateway) (p : Purpose) : List Provider :=
  Roster.providers g.settings g.miners g.connections p

/-- Broadcasts a transaction, and records in a latch which provider is the first to take it. -/
def broadcast (g : Gateway) (w : World) (start : Instant) (id hex : String) (limit : Nat)
    (latch : Latch) : Run Broadcast.Outcome :=
  if !TxId.isLongEnough id then Run.done ⟨.error .shortId, latch⟩ start
  else if Text.isBlankText hex then Run.done ⟨.error .blankHex, latch⟩ start
  else
    let request : Broadcast.Request := {
      id, hex
      deadline := start + limit
      fallback := g.providers .query
      fallbackLimit := g.settings.limit .query }
    Broadcast.run w start (g.providers .broadcast) request latch

/-- What a search or a race found, as the result of an operation. -/
def foundOr (r : Option TxRecord) : Except Failure TxRecord :=
  match r with
  | some r => .ok r
  | none => .error .notFound

theorem foundOr_eq_ok {x : Option TxRecord} {r : TxRecord} : foundOr x = .ok r ↔ x = some r := by
  cases x <;> simp [foundOr]

theorem foundOr_eq_error {x : Option TxRecord} {f : Failure} :
    foundOr x = .error f ↔ x = none ∧ f = .notFound := by
  cases x <;> simp [foundOr, eq_comm]

/-- Looks a transaction up, one provider after the other. -/
def search (g : Gateway) (w : World) (start : Instant) (id : String) (wanted : Inclusion)
    (limit : Nat) : Run (Except Failure TxRecord) :=
  if !TxId.isLongEnough id then Run.done (.error .shortId) start
  else
    let course := Search.inOrder id wanted (start + limit) (g.providers .query) w start
    ⟨foundOr course.value.join, ⟨course.finish, false⟩, course.calls, []⟩

/-- Looks a transaction up at all providers at once. -/
def race (g : Gateway) (w : World) (start : Instant) (id : String) (wanted : Inclusion)
    (limit : Nat) : Run (Except Failure TxRecord) :=
  if !TxId.isLongEnough id then Run.done (.error .shortId) start
  else
    (Race.run w start (g.providers .query) id wanted (start + limit)
      g.settings.raceStragglers).map foundOr

variable {g : Gateway} {w : World} {start : Instant} {id : String} {wanted : Inclusion} {limit : Nat}
  {r : TxRecord}

theorem search_of_long (hid : TxId.isLongEnough id = true) :
    g.search w start id wanted limit =
      ⟨foundOr (Search.inOrder id wanted (start + limit) (g.providers .query) w start).value.join,
        ⟨(Search.inOrder id wanted (start + limit) (g.providers .query) w start).finish, false⟩,
        (Search.inOrder id wanted (start + limit) (g.providers .query) w start).calls, []⟩ := by
  simp [search, hid]

theorem race_of_long (hid : TxId.isLongEnough id = true) :
    g.race w start id wanted limit = (Race.run w start (g.providers .query) id wanted
      (start + limit) g.settings.raceStragglers).map foundOr := by
  simp [race, hid]

theorem search_eq_ok : (g.search w start id wanted limit).result = .ok r ↔
    TxId.isLongEnough id = true ∧
      (Search.inOrder id wanted (start + limit) (g.providers .query) w start).value =
        some (some r) := by
  cases hid : TxId.isLongEnough id with
  | false => simp [search, hid, Run.done]
  | true => simp [search_of_long hid, foundOr_eq_ok, Option.join_eq_some_iff]

theorem race_eq_ok : (g.race w start id wanted limit).result = .ok r ↔
    TxId.isLongEnough id = true ∧ (Race.run w start (g.providers .query) id wanted
      (start + limit) g.settings.raceStragglers).result = some r := by
  cases hid : TxId.isLongEnough id with
  | false => simp [race, hid, Run.done]
  | true => simp [race_of_long hid, Run.map, foundOr_eq_ok]

/-- Verifies a batch of merkle roots. -/
def verify (g : Gateway) (w : World) (start : Instant) (roots : List RootClaim) :
    Run (Except Failure Unit) :=
  Verification.run w start g.connections.verifiers roots (start + g.settings.limit .merkle)
    g.settings.merkleStragglers

/-- Replaces the settings, if the new ones are valid. -/
def update (g : Gateway) (s : Settings) : Except Failure Gateway :=
  match s.validate with
  | .error v => .error (.invalid v)
  | .ok () => .ok { g with settings := s }

end Gateway

end TxGateway
