import TxGateway.Gateway
import TxGateway.Proofs.Broadcast.Verdict
import TxGateway.Proofs.Secrecy.Masking

namespace TxGateway

/-! # Operations do not depend on tokens

Tokens reach the outside with the calls that are made, and they come back nowhere else. So an
operation that is carried out without tokens takes the same course, and its calls are the same but
for the tokens.

* `World.Agree`: answers do not depend on tokens.
* `Activity.Veiled`: what a task does without tokens is what it does with them, redacted.
* `Broadcast.run_veiled`, `Race.run_veiled`, `Verification.run_veiled` and `FeeSurvey.run_veiled`
  say so of whole operations.
-/

/-! ## Calls without tokens -/

def Call.redacted : Call → Call
  | .submit m hex => .submit m.redacted hex
  | .status m id => .status m.redacted id
  | .quote dialect m => .quote dialect m.redacted
  | c => c

theorem Call.redacted_redacted (c : Call) : c.redacted.redacted = c.redacted := by
  cases c <;> simp only [redacted, Miner.redacted_redacted]

def CallTrace.redacted (c : CallTrace) : CallTrace := { c with call := c.call.redacted }

def Timeline.redacted {α : Type} (t : Timeline α) : Timeline α :=
  { t with calls := t.calls.map CallTrace.redacted }

/-- The step with the tokens in its calls redacted. -/
def Run.redacted {α : Type} (r : Run α) : Run α :=
  { r with
    calls := r.calls.map CallTrace.redacted
    stragglers := r.stragglers.map CallTrace.redacted }

theorem Provider.name_redacted (p : Provider) : p.redacted.name = p.name := by cases p <;> rfl

def Broadcast.Request.redacted (r : Request) : Request :=
  { r with fallback := r.fallback.map Provider.redacted }

def FeeSurvey.Selection.redacted (x : Selection) : Selection :=
  { x with broadcast := x.broadcast.map Miner.redacted, query := x.query.map Miner.redacted }

/-! ## The outside -/

namespace World

/-- Calls that differ in nothing but tokens have the same response. -/
def Agree (w v : World) : Prop :=
  ∀ now c d, Call.redacted c = Call.redacted d → HEq (w now c) (v now d)

/-- A call without its token has the response in `v` that the call has in `w`. -/
def Veiled (w v : World) : Prop := ∀ now c, HEq (v now c.redacted) (w now c)

theorem Agree.veiled {w v : World} (h : w.Agree v) : w.Veiled v :=
  fun now c => (h now c c.redacted c.redacted_redacted.symm).symm

/-- Answers do not depend on tokens if every call is answered as it is without its token. -/
theorem agree_self {w : World} (h : w.Veiled w) : w.Agree w := by
  intro now c d hcd
  have hc : HEq (w now c.redacted) (w now c) := h now c
  rw [hcd] at hc
  exact hc.symm.trans (h now d)

theorem Agree.veiled_self {w v : World} (h : w.Agree v) : v.Veiled v :=
  fun now c => (h.veiled now c).trans (h now c c rfl)

end World

/-! ## Tasks -/

theorem Response.course_redacted {α : Type} (c : Call) (limit : Nat) (now : Instant)
    (r : Response α) : r.course c.redacted limit now = (r.course c limit now).redacted := by
  cases r with
  | answer d reply => by_cases h : d ≤ limit <;> simp [course, dropped, h] <;> rfl
  | crash d => by_cases h : d ≤ limit <;> simp [course, dropped, h] <;> rfl
  | silence => rfl

namespace Activity

variable {α β : Type} {w v : World}

/-- What `y` does in `v` is what `x` does in `w`, with the tokens redacted. -/
def Veiled (w v : World) (x y : Activity α) : Prop := ∀ now, y v now = (x w now).redacted

theorem veiled_pure (a : α) : Veiled w v (pure a) (pure a) := fun _ => rfl

theorem veiled_now : Veiled w v now now := fun _ => rfl

theorem Veiled.bind {x y : Activity α} {f g : α → Activity β} (hx : Veiled w v x y)
    (hf : ∀ a, Veiled w v (f a) (g a)) : Veiled w v (x >>= f) (y >>= g) := by
  intro now
  cases hvalue : (x w now).value with
  | none =>
    -- what is redacted ends with the same, so both crash or both go on
    have hvalue' : (y v now).value = none := by
      rw [hx]
      exact hvalue
    rw [bind_of_none hvalue, bind_of_none hvalue', hx]
    rfl
  | some a =>
    have hvalue' : (y v now).value = some a := by
      rw [hx]
      exact hvalue
    rw [bind_of_some hvalue, bind_of_some hvalue', hx, hf]
    simp only [Timeline.redacted, List.map_append]

end Activity

section

variable {w v : World} (h : w.Veiled v)
include h

namespace Provider

theorem submission_veiled (p : Provider) (id hex : String) (now : Instant) :
    p.redacted.submission id hex v now = p.submission id hex w now := by
  cases p with
  | miner m =>
    have hsubmit : (v now (.submit m.redacted hex) : Response Submission) =
      w now (.submit m hex) := eq_of_heq (h now (.submit m hex))
    simp only [redacted, submission, hsubmit]
  | outlet o name =>
    have hpublish : v now (.publish o hex) = w now (.publish o hex) :=
      eq_of_heq (h now (.publish o hex))
    simp only [redacted, submission, hpublish]

theorem sighting_veiled (p : Provider) (id : String) (now : Instant) :
    p.redacted.sighting id v now = p.sighting id w now := by
  cases p with
  | miner m =>
    have hstatus : (v now (.status m.redacted id) : Response MinerSighting) =
      w now (.status m id) := eq_of_heq (h now (.status m id))
    simp only [redacted, sighting, hstatus]
    rfl
  | outlet o name =>
    have hfind : v now (.find o id) = w now (.find o id) := eq_of_heq (h now (.find o id))
    simp only [redacted, sighting, hfind]

theorem submit_veiled (p : Provider) (id hex : String) (deadline : Instant) :
    Activity.Veiled w v (p.submit id hex deadline) (p.redacted.submit id hex deadline) := by
  intro now
  have hcall : p.redacted.submitCall hex = (p.submitCall hex).redacted := by cases p <;> rfl
  rw [submit_eq, submit_eq, submission_veiled h, hcall, Response.course_redacted]

theorem lookUp_veiled (p : Provider) (id : String) (deadline : Instant) :
    Activity.Veiled w v (p.lookUp id deadline) (p.redacted.lookUp id deadline) := by
  intro now
  have hcall : p.redacted.lookUpCall id = (p.lookUpCall id).redacted := by cases p <;> rfl
  rw [lookUp_eq, lookUp_eq, sighting_veiled h, hcall, Response.course_redacted]

end Provider

theorem Search.inOrder_veiled (id : String) (wanted : Inclusion) (deadline : Instant)
    (ps : List Provider) :
    Activity.Veiled w v (inOrder id wanted deadline ps)
      (inOrder id wanted deadline (ps.map Provider.redacted)) := by
  induction ps with
  | nil => exact Activity.veiled_pure none
  | cons p rest ih =>
    refine (p.lookUp_veiled h id deadline).bind fun reply => ?_
    match reply with
    | none => exact Activity.veiled_pure none
    | some (.error _) => exact ih
    | some (.ok r) =>
      by_cases hmet : wanted.metBy id r
      · simp only [hmet, if_true]
        exact Activity.veiled_pure (some r)
      · simp only [hmet, if_false, Bool.false_eq_true]
        exact ih

theorem Race.ask_veiled (id : String) (wanted : Inclusion) (deadline : Instant) (p : Provider) :
    Activity.Veiled w v (ask id wanted deadline p) (ask id wanted deadline p.redacted) := by
  refine (p.lookUp_veiled h id deadline).bind fun reply => ?_
  match reply with
  | none => exact Activity.veiled_pure none
  | some (.error _) => exact Activity.veiled_pure none
  | some (.ok r) => exact Activity.veiled_pure (if wanted.metBy id r then some r else none)

namespace Broadcast

theorem settle_veiled (request : Request) (e : ProviderError) :
    Activity.Veiled w v (settle request e) (settle request.redacted e) := by
  unfold settle
  cases Wording.classify e.message with
  | alreadyKnown => exact Activity.veiled_pure none
  | failure => exact Activity.veiled_pure (some e.message)
  | questionable =>
    refine Activity.veiled_now.bind fun now => ?_
    refine Activity.Veiled.bind (Search.inOrder_veiled h _ _ _ request.fallback) fun r => ?_
    cases r with
    | none => exact Activity.veiled_pure (some e.message)
    | some r => exact Activity.veiled_pure none

theorem attempt_veiled (request : Request) (p : Provider) :
    Activity.Veiled w v (attempt request p) (attempt request.redacted p.redacted) := by
  unfold attempt
  rw [p.name_redacted]
  refine (p.submit_veiled h _ _ _).bind fun reply => ?_
  cases reply.getD (.error .late) with
  | ok _ => exact Activity.veiled_pure (some (Report.mk p.name none))
  | error e =>
    exact (settle_veiled h request e).bind fun failure =>
      Activity.veiled_pure (some (Report.mk p.name failure))

end Broadcast

theorem Verification.ask_veiled (roots : List RootClaim) (deadline : Instant) (position : Nat)
    (verifier : String) :
    Activity.Veiled w v (ask roots deadline position verifier)
      (ask roots deadline position verifier) := by
  refine Activity.Veiled.bind (fun now => ?_) fun reply => Activity.veiled_pure _
  have hverify : v now (.verify position roots) = w now (.verify position roots) :=
    eq_of_heq (h now (.verify position roots))
  rw [Activity.ask_eq, Activity.ask_eq, hverify, ← Response.course_redacted]
  rfl

/-- A miner that is probed without its token is reported without it. -/
theorem FeeSurvey.probe_veiled (clock : Timestamp) (deadline : Instant) (position : Nat)
    (m : Miner) (now : Instant) :
    probe clock deadline position m.redacted v now =
      ((probe clock deadline position m w now).map
        (Option.map (Prod.map id Miner.redacted))).redacted := by
  have hquote : (v now (.quote m.dialect m.redacted) : Response Fee) =
    w now (.quote m.dialect m) := eq_of_heq (h now (.quote m.dialect m))
  have hask : (Activity.ask (.quote m.redacted.dialect m.redacted) deadline v now :
      Timeline (Option (Reply Fee))) =
      (Activity.ask (.quote m.dialect m) deadline w now).redacted := by
    rw [Activity.ask_eq, Activity.ask_eq, ← Response.course_redacted]
    exact congrArg _ hquote
  unfold probe
  rw [Activity.bind_pure_apply, Activity.bind_pure_apply, hask]
  simp only [Timeline.map, Timeline.redacted, Option.map_map]
  rfl

end

/-! ## Scopes -/

section

variable {α : Type} (start : Instant) (tasks : List (Scope.Task α))

theorem Timeline.wakes_redacted {α : Type} (t : Timeline α) : t.redacted.wakes = t.wakes := by
  simp only [wakes, redacted, List.filter_map, List.map_map]
  rfl

namespace Scope

theorem arrivals_redacted :
    arrivals start (tasks.map Timeline.redacted) = arrivals start tasks := by
  have hatStart : ∀ t : Task α, atStart start t.redacted = atStart start t := by
    intro t
    simp only [atStart, Timeline.wakes_redacted]
    rfl
  have henqueued : ∀ t : Task α, enqueued t.redacted = enqueued t := by
    intro t
    simp only [enqueued, Timeline.wakes_redacted]
    rfl
  simp only [arrivals, List.flatMap_map, hatStart, henqueued]

theorem finish_redacted :
    finish start (tasks.map Timeline.redacted) = finish start tasks := by
  simp only [finish, List.foldl_map]
  rfl

theorem calls_redacted :
    calls (tasks.map Timeline.redacted) = (calls tasks).map CallTrace.redacted := by
  simp only [calls, List.flatMap_map, List.map_flatMap]
  rfl

theorem drain_redacted :
    drain start (tasks.map Timeline.redacted) = (drain start tasks).redacted := by
  simp only [drain, arrivals_redacted, finish_redacted, calls_redacted]
  rfl

/-- Which calls are broken off does not depend on their tokens. -/
theorem first_redacted (deadline : Instant) (policy : Stragglers) :
    first start deadline policy (tasks.map Timeline.redacted) =
      (first start deadline policy tasks).redacted := by
  have hwinner : winner? start deadline (tasks.map Timeline.redacted) =
      winner? start deadline tasks := by
    simp only [winner?, arrivals_redacted]
  have hgivenUp : givenUp start deadline (tasks.map Timeline.redacted) =
      givenUp start deadline tasks := by
    simp only [givenUp, finish_redacted]
  unfold first
  rw [hwinner, hgivenUp, calls_redacted]
  cases policy <;>
    simp only [Run.redacted, List.filter_map, List.map_append, List.map_map, List.map_nil] <;> rfl

end Scope

end

/-! ## Whole operations -/

namespace FeeSurvey

theorem survivors_redacted (reports : List (Nat × Miner)) :
    survivors (reports.map (Prod.map id Miner.redacted)) =
      (survivors reports).map Miner.redacted := by
  have hsort : (reports.map (Prod.map id Miner.redacted)).mergeSort (fun a b => a.1 ≤ b.1) =
      (reports.mergeSort fun a b => a.1 ≤ b.1).map (Prod.map id Miner.redacted) :=
    (List.map_mergeSort (f := Prod.map id Miner.redacted) fun _ _ _ _ => rfl).symm
  unfold survivors
  rw [hsort]
  simp only [List.map_map, List.filter_map]
  rfl

/-- The fees decide, and the tokens of the miners do not. -/
theorem select_redacted (useQuotedFees : Bool) (query : List Miner)
    (reports : List (Nat × Miner)) :
    select useQuotedFees (query.map Miner.redacted) (reports.map (Prod.map id Miner.redacted)) =
      (select useQuotedFees query reports).map Selection.redacted := by
  unfold select
  rw [survivors_redacted]
  cases survivors reports with
  | nil => rfl
  | cons m rest =>
    cases query with
    | nil => rfl
    | cons q query =>
      have hfees : ((m :: rest).map Miner.redacted).filterMap Miner.fee =
          (m :: rest).filterMap Miner.fee := List.filterMap_map
      rw [List.map_cons] at hfees
      simp only [List.map_cons, hfees]
      rfl

end FeeSurvey

section

variable {w v : World} (h : w.Veiled v) (start : Instant)
include h

theorem Broadcast.run_veiled (ps : List Provider) (request : Request) (latch : Latch) :
    run v start (ps.map Provider.redacted) request.redacted latch =
      (run w start ps request latch).redacted := by
  have htasks : (ps.map Provider.redacted).map (fun p => attempt request.redacted p v start) =
      (ps.map fun p => attempt request p w start).map Timeline.redacted := by
    simp only [List.map_map, Function.comp_def, attempt_veiled h request _ start]
  by_cases hps : ps = []
  · rw [hps]
    rfl
  · have hredacted : ps.map Provider.redacted ≠ [] := by simpa using hps
    rw [run_of_ne_nil hredacted, run_of_ne_nil hps, htasks, Scope.drain_redacted]
    rfl

theorem Race.run_veiled (ps : List Provider) (id : String) (wanted : Inclusion)
    (deadline : Instant) (policy : Stragglers) :
    run v start (ps.map Provider.redacted) id wanted deadline policy =
      (run w start ps id wanted deadline policy).redacted := by
  have htasks : (ps.map Provider.redacted).map (fun p => ask id wanted deadline p v start) =
      (ps.map fun p => ask id wanted deadline p w start).map Timeline.redacted := by
    simp only [List.map_map, Function.comp_def, ask_veiled h id wanted deadline _ start]
  show (Scope.first start deadline policy _).map _ = _
  rw [htasks, Scope.first_redacted]
  rfl

theorem Verification.run_veiled (verifiers : List String) (roots : List RootClaim)
    (deadline : Instant) (policy : Stragglers) :
    run v start verifiers roots deadline policy =
      (run w start verifiers roots deadline policy).redacted := by
  unfold run
  split
  · rfl
  · split
    · rfl
    · have htasks : (verifiers.mapIdx fun i name => ask roots deadline i name v start) =
          (verifiers.mapIdx fun i name => ask roots deadline i name w start).map
            Timeline.redacted := by
        simp only [List.mapIdx_eq_zipIdx_map, List.map_map, Function.comp_def,
          ask_veiled h roots deadline _ _ start]
      show (Scope.first start deadline policy _).map _ = _
      rw [htasks, Scope.first_redacted]
      rfl

theorem FeeSurvey.run_veiled (clock : Timestamp) (limit : Nat) (useQuotedFees : Bool)
    (broadcast query : List Miner) :
    run v start clock limit useQuotedFees (broadcast.map Miner.redacted)
        (query.map Miner.redacted) =
      ((run w start clock limit useQuotedFees broadcast query).map
        (Except.map Selection.redacted)).redacted := by
  have htasks : ((broadcast.map Miner.redacted).mapIdx fun i m =>
        probe clock (start + limit) i m v start) =
      ((broadcast.mapIdx fun i m => probe clock (start + limit) i m w start).map
        (Timeline.map (Option.map (Prod.map id Miner.redacted)))).map Timeline.redacted := by
    simp only [List.mapIdx_eq_zipIdx_map, List.zipIdx_map, List.map_map, Function.comp_def,
      Prod.map, probe_veiled h]
    rfl
  have hvalues : ∀ reports : List (Arrival (Nat × Miner)),
      (reports.map (Arrival.map (Prod.map id Miner.redacted))).map Arrival.value =
        (reports.map Arrival.value).map (Prod.map id Miner.redacted) := by
    intro reports
    simp only [List.map_map]
    rfl
  simp only [run, htasks, Scope.drain_redacted, Scope.drain_map, Run.map, Run.redacted, hvalues,
    select_redacted]

end

end TxGateway
