import TxGateway.Proofs.Broadcast.Verdict
import TxGateway.Proofs.Gateway.Uses
import TxGateway.Proofs.Race.Winner
import TxGateway.Proofs.Traffic.Process

namespace TxGateway

/-! # What operations come down to

Each operation of a gateway starts tasks, waits for all of them or for the first to deliver, and
concludes from what has been delivered. Brought into this one form, the operations can be followed
step by step side by side.

* `Plan` is the form, and `Plan.run` is what becomes of a plan that has the time for itself.
* `Gateway.plan` is the plan of a use, made from the settings at its start.
* `Gateway.plan_run` says that the plan runs as the operation does, and `Gateway.plan_brief` that
  tasks which may be left behind make no second call.
-/

/-- What a task may deliver. -/
inductive Delivery where
  | report (report : Broadcast.Report)
  | record (record : TxRecord)
  | answer (report : Verification.Report)

namespace Delivery

def report? : Delivery → Option Broadcast.Report
  | .report r => some r
  | _ => none

def record? : Delivery → Option TxRecord
  | .record r => some r
  | _ => none

def answer? : Delivery → Option Verification.Report
  | .answer r => some r
  | _ => none

end Delivery

/-- What a caller gets back. -/
inductive Result where
  | updated (result : Except Failure Unit)
  | sent (result : Except Failure Unit)
  | found (result : Except Failure TxRecord)
  | verified (result : Except Failure Unit)

/-- What the caller of a scope waits for. -/
inductive Wait where
  | all
  | first (deadline : Instant) (policy : Stragglers)

def Wait.deadline? : Wait → Option Instant
  | .all => none
  | .first deadline _ => some deadline

structure Plan where
  tasks : List (Process (Option Delivery))
  wait : Wait
  conclude : List (Arrival Delivery) → Result

namespace Plan

/-- Returns at once. -/
def done (r : Result) : Plan := ⟨[], .all, fun _ => r⟩

variable {α : Type} (tag : α → Delivery)

/-- A task that delivers under a tag. -/
def tagged (p : Process (Option α)) : Process (Option Delivery) :=
  p.bind fun value => .finish (value.map tag)

def ofTasks (tasks : List (Process (Option α))) (wait : Wait)
    (conclude : List (Arrival Delivery) → Result) : Plan :=
  ⟨tasks.map (tagged tag), wait, conclude⟩

/-- The courses of the tasks when they are started together. -/
def timelines (w : World) (start : Instant) (plan : Plan) : List (Scope.Task Delivery) :=
  plan.tasks.map fun p => p.activity w start

/-- A plan that has the time for itself. -/
def run (w : World) (start : Instant) (plan : Plan) : Run Result :=
  match plan.wait with
  | .all => (Scope.drain start (plan.timelines w start)).map plan.conclude
  | .first deadline policy =>
    (Scope.first start deadline policy (plan.timelines w start)).map fun a =>
      plan.conclude a.toList

variable (w : World) (start : Instant) (tasks : List (Process (Option α)))
  (conclude : List (Arrival Delivery) → Result)

/-- Tasks of which only the first is waited for make one call each. -/
def Brief (w : World) (start : Instant) (plan : Plan) : Prop :=
  plan.wait.deadline?.isSome = true → ∀ t ∈ plan.timelines w start, t.calls.length = 1

/-- Nothing is asked of a plan that waits for all of its tasks. -/
theorem brief_of_all {plan : Plan} (h : plan.wait = .all) : plan.Brief w start := by
  intro hfirst
  rw [h] at hfirst
  cases hfirst

theorem timelines_ofTasks (wait : Wait) :
    (ofTasks tag tasks wait conclude).timelines w start =
      (tasks.map fun p => p.activity w start).map (Timeline.map (Option.map tag)) := by
  simp only [timelines, ofTasks, List.map_map]
  congr 1
  funext p
  show (tagged tag p).activity w start = _
  rw [tagged, Process.activity_bind]
  exact Activity.bind_pure_apply (Option.map tag)

theorem run_ofTasks_all :
    (ofTasks tag tasks .all conclude).run w start =
      (Scope.drain start (tasks.map fun p => p.activity w start)).map fun arrivals =>
        conclude (arrivals.map (Arrival.map tag)) := by
  show (Scope.drain start ((ofTasks tag tasks .all conclude).timelines w start)).map conclude = _
  rw [timelines_ofTasks, Scope.drain_map]
  rfl

theorem run_ofTasks_first (deadline : Instant) (policy : Stragglers) :
    (ofTasks tag tasks (.first deadline policy) conclude).run w start =
      (Scope.first start deadline policy (tasks.map fun p => p.activity w start)).map fun a =>
        conclude (a.map (Arrival.map tag)).toList := by
  have hrun : (ofTasks tag tasks (.first deadline policy) conclude).run w start =
      (Scope.first start deadline policy
        ((ofTasks tag tasks (.first deadline policy) conclude).timelines w start)).map
          fun a => conclude a.toList := rfl
  rw [hrun, timelines_ofTasks, Scope.first_map]
  rfl

end Plan

/-- What a step comes to for those who see its result, its end and its calls. -/
def Run.outcome {α : Type} (r : Run α) : α × Instant × List CallTrace :=
  (r.result, r.moment.instant, r.allCalls)

/-! ## The plans of the operations -/

section

variable (w : World) (start deadline : Instant) (id : String) (wanted : Inclusion)

def Broadcast.plan (providers : List Provider) (request : Broadcast.Request) : Plan :=
  match providers with
  | [] => .done (.sent (.error (.noProviders .broadcast)))
  | providers =>
    .ofTasks .report (providers.map fun p => (stepwise request p).process) .all fun arrivals =>
      .sent (verdict (arrivals.filterMap fun a => a.value.report?))

theorem Broadcast.plan_run (providers : List Provider) (request : Broadcast.Request)
    (latch : Latch) :
    ((plan providers request).run w start).outcome =
      ((run w start providers request latch).map fun o => Result.sent o.result).outcome := by
  cases providers with
  | nil => rfl
  | cons p rest =>
    rw [plan, Plan.run_ofTasks_all, run_of_ne_nil (List.cons_ne_nil p rest)]
    · simp only [List.map_map, Function.comp_def, Stepwise.activity_eq]
      have hreports : ∀ arrivals : List (Arrival Report),
          (arrivals.map (Arrival.map Delivery.report)).filterMap (fun a => a.value.report?) =
            arrivals.map Arrival.value := by
        intro arrivals
        rw [List.filterMap_map, ← List.filterMap_eq_map]
        rfl
      simp only [hreports]
      rfl
    · exact nofun

/-- The record that was delivered first. -/
def firstRecord? (arrivals : List (Arrival Delivery)) : Option TxRecord :=
  arrivals.head?.bind fun a => a.value.record?

def Search.plan (providers : List Provider) : Plan :=
  .ofTasks .record [(stepwise id wanted deadline providers).process] .all fun arrivals =>
    .found (Gateway.foundOr (firstRecord? arrivals))

def Race.plan (policy : Stragglers) (providers : List Provider) : Plan :=
  .ofTasks .record (providers.map fun p => (stepwise id wanted deadline p).process)
    (.first deadline policy) fun arrivals => .found (Gateway.foundOr (firstRecord? arrivals))

theorem Race.plan_run (policy : Stragglers) (providers : List Provider) :
    ((plan deadline id wanted policy providers).run w start) =
      (run w start providers id wanted deadline policy).map fun r =>
        .found (Gateway.foundOr r) := by
  rw [plan, Plan.run_ofTasks_first]
  simp only [List.map_map, Function.comp_def, Stepwise.activity_eq]
  have hrecord : ∀ a : Option (Arrival TxRecord),
      firstRecord? (a.map (Arrival.map Delivery.record)).toList = a.map Arrival.value := by
    intro a
    cases a <;> rfl
  simp only [hrecord]
  rfl

def Verification.plan (policy : Stragglers) (verifiers : List String) (roots : List RootClaim) :
    Plan :=
  if verifiers.isEmpty then .done (.verified (.error .noVerifiers))
  else if roots.isEmpty then .done (.verified (.ok ()))
  else
    .ofTasks .answer (verifiers.mapIdx fun i name => (stepwise roots deadline i name).process)
      (.first deadline policy) fun arrivals =>
        .verified (verdict (arrivals.head?.bind fun a => a.value.answer?))

theorem Verification.plan_run (policy : Stragglers) (verifiers : List String)
    (roots : List RootClaim) :
    ((plan deadline policy verifiers roots).run w start).outcome =
      ((run w start verifiers roots deadline policy).map Result.verified).outcome := by
  unfold plan run
  split
  · rfl
  · split
    · rfl
    · rw [Plan.run_ofTasks_first]
      simp only [List.mapIdx_eq_zipIdx_map, List.map_map, Function.comp_def,
        Stepwise.activity_eq]
      have hanswer : ∀ a : Option (Arrival Verification.Report),
          ((a.map (Arrival.map Delivery.answer)).toList.head?.bind fun a => a.value.answer?) =
            a.map Arrival.value := by
        intro a
        cases a <;> rfl
      simp only [hanswer]
      rfl

/-- Each verifier is asked once, in one task. -/
theorem Verification.length_calls_eq_one (policy : Stragglers) (verifiers : List String)
    (roots : List RootClaim) :
    ∀ t ∈ (plan deadline policy verifiers roots).timelines w start, t.calls.length = 1 := by
  intro t ht
  unfold plan at ht
  split at ht
  · cases ht
  · split at ht
    · cases ht
    · rw [Plan.timelines_ofTasks, List.mapIdx_eq_zipIdx_map, List.map_map, List.map_map] at ht
      obtain ⟨⟨name, i⟩, -, rfl⟩ := List.mem_map.mp ht
      simp only [Function.comp_apply, Stepwise.activity_eq, Timeline.map, Verification.ask,
        Activity.bind_pure_apply, Activity.ask_eq]
      obtain ⟨fate, hcalls⟩ := (w start (.verify i roots)).course_calls (.verify i roots)
        (deadline - start) start
      rw [hcalls]
      rfl

/-- A search is a scope with one task. -/
theorem Search.plan_run (providers : List Provider) :
    let course := inOrder id wanted deadline providers w start
    ((plan deadline id wanted providers).run w start).outcome =
      (.found (Gateway.foundOr course.value.join), course.finish, course.calls) := by
  intro course
  have hgapless : Gapless start course.calls course.finish :=
    (makes_inOrder id wanted deadline providers).gapless w start
  -- of one task there is nothing but its own delivery to come first
  have hfirst : firstRecord? ((Scope.arrivals start [course]).map (Arrival.map .record)) =
      course.value.join := by
    have hperm : (Scope.arrivals start [course]).Perm _ :=
      Scope.arrivals_perm (by simpa [Scope.WellTimed] using hgapless)
    cases hvalue : course.value.join with
    | none =>
      simp only [List.filterMap_cons, Scope.delivery?, hvalue, Option.map_none] at hperm
      rw [List.perm_nil.mp hperm]
      rfl
    | some r =>
      simp only [List.filterMap_cons, Scope.delivery?, hvalue, Option.map_some] at hperm
      rw [List.perm_singleton.mp hperm]
      rfl
  have hfinish : Scope.finish start [course] = course.finish := Nat.max_eq_right hgapless.le
  rw [plan, Plan.run_ofTasks_all, List.map_cons, List.map_nil, Stepwise.activity_eq]
  simp only [Run.outcome, Run.map, Run.allCalls, Scope.drain]
  rw [hfirst, hfinish]
  simp [Scope.calls, course]

end

namespace Gateway

/-- What a use of the gateway leads to, when it begins at an instant. -/
def perform (g : Gateway) (w : World) (start : Instant) : Use → Run Result
  | .update s => Run.done (.updated ((g.update s).map fun _ => ())) start
  | .broadcast id hex limit latch =>
    (g.broadcast w start id hex limit latch).map fun o => .sent o.result
  | .search id wanted limit => (g.search w start id wanted limit).map .found
  | .race id wanted limit => (g.race w start id wanted limit).map .found
  | .verify roots => (g.verify w start roots).map .verified

/-- The plan of a use that begins at an instant. -/
def plan (g : Gateway) (start : Instant) : Use → Plan
  | .update s => .done (.updated ((g.update s).map fun _ => ()))
  | .broadcast id hex limit _ =>
    if !TxId.isLongEnough id then .done (.sent (.error .shortId))
    else if Text.isBlankText hex then .done (.sent (.error .blankHex))
    else Broadcast.plan (g.providers .broadcast) (Broadcast.requestOf g start id hex limit)
  | .search id wanted limit =>
    if !TxId.isLongEnough id then .done (.found (.error .shortId))
    else Search.plan (start + limit) id wanted (g.providers .query)
  | .race id wanted limit =>
    if !TxId.isLongEnough id then .done (.found (.error .shortId))
    else Race.plan (start + limit) id wanted g.settings.raceStragglers (g.providers .query)
  | .verify roots =>
    Verification.plan (start + g.settings.limit .merkle) g.settings.merkleStragglers
      g.connections.verifiers roots

/-- The plan of a use comes to what the use leads to. -/
theorem plan_run (g : Gateway) (w : World) (start : Instant) (u : Use) :
    ((g.plan start u).run w start).outcome = (g.perform w start u).outcome := by
  cases u with
  | update s => rfl
  | broadcast id hex limit latch =>
    simp only [plan, perform, broadcast]
    split
    · rfl
    · split
      · rfl
      · exact Broadcast.plan_run w start _ _ latch
  | search id wanted limit =>
    simp only [plan, perform, search]
    split
    · rfl
    · rw [Search.plan_run]
      simp [Run.outcome, Run.map, Run.allCalls]
  | race id wanted limit =>
    simp only [plan, perform, race]
    split
    · rfl
    · rw [Race.plan_run]
      rfl
  | verify roots => exact Verification.plan_run w start _ _ _ _

theorem plan_brief (g : Gateway) (w : World) (start : Instant) (u : Use) :
    (g.plan start u).Brief w start := by
  -- only races and verifications do not wait for all; each of their tasks makes one call
  cases u with
  | update s => exact Plan.brief_of_all w start rfl
  | broadcast id hex limit latch =>
    simp only [plan]
    split
    · exact Plan.brief_of_all w start rfl
    · split
      · exact Plan.brief_of_all w start rfl
      · unfold Broadcast.plan
        split <;> exact Plan.brief_of_all w start rfl
  | search id wanted limit =>
    simp only [plan]
    split <;> exact Plan.brief_of_all w start rfl
  | race id wanted limit =>
    simp only [plan]
    split
    · exact Plan.brief_of_all w start rfl
    · intro _ t ht
      rw [Race.plan, Plan.timelines_ofTasks, List.map_map, List.map_map] at ht
      obtain ⟨p, -, rfl⟩ := List.mem_map.mp ht
      simp only [Function.comp_apply, Stepwise.activity_eq, Timeline.map, Race.ask_eq]
      obtain ⟨fate, hcalls⟩ := (p.sighting id w start).course_calls (p.lookUpCall id) limit start
      rw [hcalls]
      rfl
  | verify roots => exact fun _ => Verification.length_calls_eq_one w start _ _ _ _

end Gateway

end TxGateway
