import TxGateway.Proofs.Traffic.Progress
import TxGateway.Scripted

namespace TxGateway

/-! # Operations do not interfere

Whatever else is done with a gateway meanwhile, a caller gets what it would have got alone, at the
same instant and with the same calls. Settings count for a use if they are in place at its start, and
what becomes of stragglers counts for nobody.

* `Undisturbed` says so of a single use at some point.
* `Plan.run_withPolicy` and `Gateway.perform_withStragglers` are about stragglers.
* `operations_do_not_interfere` is about all uses at all points.
-/

variable {w : World} {start : Instant} {plan : Plan}

/-! ## Stragglers -/

def Wait.withPolicy (policy : Stragglers) : Wait → Wait
  | .all => .all
  | .first deadline _ => .first deadline policy

/-- The plan with another decision about stragglers. -/
def Plan.withPolicy (policy : Stragglers) (plan : Plan) : Plan :=
  { plan with wait := plan.wait.withPolicy policy }

namespace Plan

theorem run_withPolicy (w : World) (start : Instant) (policy : Stragglers) (plan : Plan) :
    ((plan.withPolicy policy).run w start).result = (plan.run w start).result ∧
      ((plan.withPolicy policy).run w start).moment = (plan.run w start).moment := by
  obtain ⟨tasks, wait, conclude⟩ := plan
  cases wait with
  | all => exact ⟨rfl, rfl⟩
  | first deadline policy' =>
    simp only [run, withPolicy, Wait.withPolicy, Run.map, Scope.first_result, Scope.first_moment]
    exact ⟨rfl, rfl⟩

theorem brief_withPolicy (policy : Stragglers) (h : plan.Brief w start) :
    (plan.withPolicy policy).Brief w start := by
  obtain ⟨tasks, wait, conclude⟩ := plan
  cases wait <;> exact h

theorem requests_run_withPolicy (policy : Stragglers) (h : plan.Brief w start) :
    (requests ((plan.withPolicy policy).run w start).allCalls).Perm
      (requests (plan.run w start).allCalls) :=
  (requests_run (brief_withPolicy policy h)).trans (requests_run h).symm

end Plan

namespace Gateway

/-- The gateway with other decisions about stragglers. -/
def withStragglers (g : Gateway) (race merkle : Stragglers) : Gateway :=
  { g with settings := { g.settings with raceStragglers := race, merkleStragglers := merkle } }

theorem plan_withStragglers (g : Gateway) (race merkle : Stragglers) (start : Instant) (u : Use) :
    ∃ policy, (g.withStragglers race merkle).plan start u = (g.plan start u).withPolicy policy := by
  cases u with
  | update s =>
    refine ⟨race, ?_⟩
    simp only [plan, update]
    cases s.validate <;> rfl
  | broadcast id hex limit latch =>
    refine ⟨race, ?_⟩
    simp only [plan]
    split
    · rfl
    · split
      · rfl
      · show Broadcast.plan (g.providers .broadcast) _ = _
        unfold Broadcast.plan
        split <;> rfl
  | search id wanted limit =>
    refine ⟨race, ?_⟩
    simp only [plan]
    split <;> rfl
  | race id wanted limit =>
    refine ⟨race, ?_⟩
    simp only [plan]
    split <;> rfl
  | verify roots =>
    refine ⟨merkle, ?_⟩
    show Verification.plan _ merkle g.connections.verifiers roots =
      (Verification.plan _ _ g.connections.verifiers roots).withPolicy merkle
    unfold Verification.plan
    split
    · rfl
    · split <;> rfl

/-- What becomes of stragglers changes neither the result of a use nor its end, nor what is asked. -/
theorem perform_withStragglers (g : Gateway) (race merkle : Stragglers) (w : World)
    (start : Instant) (u : Use) :
    let other := (g.withStragglers race merkle).perform w start u
    other.result = (g.perform w start u).result ∧
      other.moment.instant = (g.perform w start u).moment.instant ∧
      (requests other.allCalls).Perm (requests (g.perform w start u).allCalls) := by
  obtain ⟨policy, hplan⟩ := g.plan_withStragglers race merkle start u
  have hother := (g.withStragglers race merkle).plan_run w start u
  have hsame := g.plan_run w start u
  rw [hplan] at hother
  simp only [Run.outcome, Prod.mk.injEq] at hother hsame
  obtain ⟨hresult, hmoment⟩ := (g.plan start u).run_withPolicy w start policy
  refine ⟨?_, ?_, ?_⟩
  · rw [← hother.1, hresult, hsame.1]
  · rw [← hother.2.1, hmoment, hsame.2.1]
  · rw [← hother.2.2, ← hsame.2.2]
    exact Plan.requests_run_withPolicy policy (g.plan_brief w start u)

end Gateway

/-! ## A use among others -/

/-- Results of a plan that only ties can tell apart, and that are the same where there is no tie. -/
structure Plan.SameUpToTies (w : World) (start : Instant) (plan : Plan) (x y : Result) : Prop where
  left : plan.Admits w start x
  right : plan.Admits w start y
  eq : plan.wait.Untied start (plan.arrivals w start) → x = y

/-- What becomes of a use that has the gateway for itself, with the settings at its start. -/
def Ticket.alone (w : World) (t : Ticket) : Run Result := t.gateway.perform w t.start t.use

/-- What a job shows of a use is what the use would show alone. -/
structure Undisturbed (w : World) (g : Gateway) (r : Runtime) (k : Nat) (j : Job) : Prop where
  /-- Its settings are those that the uses before it have left, and no later ones. -/
  installed : j.ticket.gateway = g.afterAll ((r.tickets.take k).map Ticket.use)
  /-- It has come as far as it might have come by itself. -/
  way : Alone w j.ticket.plan j.ticket.start r.now (r.view k j)
  pending : j.ended = none → r.now ≤ (j.ticket.alone w).moment.instant
  result : ∀ c x, j.ended = some (c, x) → c = (j.ticket.alone w).moment.instant ∧
    j.ticket.plan.SameUpToTies w j.ticket.start x (j.ticket.alone w).result
  calls : ((requests ((r.view k j).threads.flatMap Thread.calls)).filter fun q => q.2 < r.now).Perm
    ((requests (j.ticket.alone w).allCalls).filter fun q => q.2 < r.now)

/-- A use without ties has its result when the time for it is over. -/
theorem Undisturbed.ended_eq {g : Gateway} {r : Runtime} {k : Nat} {j : Job}
    (h : Undisturbed w g r k j) (hlate : (j.ticket.alone w).moment.instant < r.now)
    (huntied : j.ticket.plan.wait.Untied j.ticket.start (j.ticket.plan.arrivals w j.ticket.start)) :
    j.ended = some ((j.ticket.alone w).moment.instant, (j.ticket.alone w).result) := by
  cases hended : j.ended with
  | none => exact absurd (h.pending hended) (Nat.not_le_of_lt hlate)
  | some cx =>
    obtain ⟨hc, hx⟩ := h.result cx.1 cx.2 hended
    rw [← hc, ← hx.eq huntied]

namespace Runtime

variable {g : Gateway} {r : Runtime}

theorem Coherent.undisturbed (h : Coherent w g r) {k : Nat} {j : Job}
    (hjob : r.jobs[k]? = some j) : Undisturbed w g r k j := by
  have hbrief := j.ticket.gateway.plan_brief w j.ticket.start j.ticket.use
  have halone := h.alone k j hjob
  have hfaithful := faithful_of_alone hbrief halone
  -- the plan keeps to its run, and its run comes to what the use leads to
  have hrun := j.ticket.gateway.plan_run w j.ticket.start j.ticket.use
  simp only [Run.outcome, Prod.mk.injEq] at hrun
  have hmoment : j.ticket.plan.moment w j.ticket.start = (j.ticket.alone w).moment.instant :=
    hrun.2.1
  refine ⟨h.installed k _ ?_, halone, ?_, ?_, ?_⟩
  · rw [tickets, List.getElem?_map, hjob]
    rfl
  · intro hopen
    rw [← hmoment]
    exact hfaithful.intime hopen
  · intro c x hended
    obtain ⟨hc, hx⟩ := hfaithful.result c x hended
    have hadmits : j.ticket.plan.Admits w j.ticket.start (j.ticket.alone w).result := by
      rw [Ticket.alone, ← hrun.1]
      exact j.ticket.plan.admits_run w j.ticket.start
    exact ⟨hc.trans hmoment, hx, hadmits, fun huntied => hx.unique huntied hadmits⟩
  · rw [Ticket.alone, ← hrun.2.2]
    exact halone.requests_perm hbrief

end Runtime

/-- However uses of a gateway are spread over time, and whatever turns their threads take, each of
them shows what it would show alone from its start, with the settings that were in place then; it
gets a result in the end, and that is the same whatever becomes of stragglers. -/
theorem operations_do_not_interfere (g : Gateway) (w : World) (first : Instant) (r : Runtime)
    (h : Runtime.Steps w (.idle g first) r) (k : Nat) (j : Job) (hjob : r.jobs[k]? = some j) :
    Undisturbed w g r k j ∧
    (∃ r' j', Runtime.Steps w r r' ∧ r'.jobs[k]? = some j' ∧ j'.ticket = j.ticket ∧
      j'.ended.isSome = true) ∧
    ∀ race merkle : Stragglers,
      let t := j.ticket
      let other := (t.gateway.withStragglers race merkle).perform w t.start t.use
      other.result = (t.alone w).result ∧ other.moment.instant = (t.alone w).moment.instant ∧
        (requests other.allCalls).Perm (requests (t.alone w).allCalls) := by
  have hcoherent := (Runtime.coherent_idle w g first).steps h
  exact ⟨hcoherent.undisturbed hjob, Runtime.exists_ended hcoherent hjob,
    fun race merkle => j.ticket.gateway.perform_withStragglers race merkle w _ _⟩

/-- Two verifiers, of which one is slow. -/
def twoVerifiers : Script where
  verifiers := [{ name := "quick", pace := { latency := 2 } },
    { name := "slow", pace := { latency := 9 } }]

/-- A batch of one root. -/
def oneRoot : List RootClaim := [⟨"root", 1⟩]

/-- New settings come during a verification, and another one follows while the slow verifier is still
busy with the first. -/
theorem verifications_undisturbed :
    let w := twoVerifiers.world
    let hasty : Settings := { merkleSeconds := 1, merkleStragglers := .abort }
    let g := Gateway.withoutMiners {} twoVerifiers.connections
    let early : Ticket := ⟨.verify oneRoot, 0, g⟩
    let swap : Ticket := ⟨.update hasty, 1, g⟩
    let late : Ticket := ⟨.verify oneRoot, 3, { g with settings := hasty }⟩
    ∃ r, Runtime.Steps w (.idle g 0) r ∧ r.tickets = [early, swap, late] ∧
      (∃ j, r.jobs[0]? = some j ∧ j.ended = some (2, .verified (.ok ()))) ∧
      ∃ j, r.jobs[2]? = some j ∧ j.ended = some (5, .verified (.ok ())) := by
  intro w hasty g early swap late
  have hidle := Runtime.coherent_idle w g 0
  -- the first verification, a pause, the update, a pause, the second verification, a pause
  have hissue : Runtime.Steps w (.idle g 0) ((Runtime.idle g 0).issue w early.use) :=
    .single (.issue _)
  obtain ⟨r₁, hpause₁, hnow₁, htickets₁⟩ := Runtime.exists_later (hidle.steps hissue) 1
  have hsteps₁ := hissue.trans hpause₁
  have hupdate := hsteps₁.tail (.issue swap.use)
  obtain ⟨r₂, hpause₂, hnow₂, htickets₂⟩ := Runtime.exists_later (hidle.steps hupdate) 2
  have hsteps₂ := hupdate.trans hpause₂
  have hagain := hsteps₂.tail (.issue late.use)
  obtain ⟨r, hpause, hnow, htickets⟩ := Runtime.exists_later (hidle.steps hagain) 10
  have hsteps := hagain.trans hpause
  have hall₁ : r₁.tickets = [early] := htickets₁
  have hall₂ : r₂.tickets = [early, swap] := by
    have hgateway : r₁.gateway = g := by
      rw [(hidle.steps hsteps₁).current, hall₁]
      rfl
    rw [htickets₂, Runtime.tickets_issue, hall₁, hnow₁, hgateway]
    rfl
  have hnow₂ : r₂.now = 3 := by
    rw [hnow₂]
    show r₁.now + 2 = 3
    rw [hnow₁]
    rfl
  have hall : r.tickets = [early, swap, late] := by
    have hsettings : lastAccepted g.settings ([early, swap].map Ticket.use) = hasty := by decide
    have hgateway : r₂.gateway = { g with settings := hasty } := by
      rw [(hidle.steps hsteps₂).current, hall₂, Gateway.afterAll_eq, hsettings]
    rw [htickets, Runtime.tickets_issue, hall₂, hnow₂, hgateway]
    rfl
  have hover : r.now = 13 := by
    rw [hnow]
    show r₂.now + 10 = 13
    rw [hnow₂]
  have huntied : ∀ t : Ticket, t.plan.wait.deadline? = some (t.start + 1000) ∨
      t.plan.wait.deadline? = some (t.start + 10000) →
      (t.plan.arrivals w t.start).map Arrival.instant = [t.start + 2, t.start + 9] →
      t.plan.wait.Untied t.start (t.plan.arrivals w t.start) := by
    intro t hdeadline hinstants
    refine ⟨by rw [hinstants]; simp, fun d hd a ha htie => ?_⟩
    have hmem : a.instant ∈ [t.start + 2, t.start + 9] := by
      rw [← hinstants]
      exact List.mem_map_of_mem ha
    simp only [List.mem_cons, List.not_mem_nil, or_false] at hmem
    rcases hdeadline with hdeadline | hdeadline <;>
    · rw [hdeadline, Option.mem_some] at hd
      lia
  obtain ⟨j, hj, hearly⟩ : ∃ j, r.jobs[0]? = some j ∧ j.ticket = early :=
    Runtime.exists_job (by rw [hall]; rfl)
  obtain ⟨j', hj', hlate⟩ : ∃ j, r.jobs[2]? = some j ∧ j.ticket = late :=
    Runtime.exists_job (by rw [hall]; rfl)
  have hfirst := (operations_do_not_interfere g w 0 r hsteps 0 j hj).1
  have hsecond := (operations_do_not_interfere g w 0 r hsteps 2 j' hj').1
  refine ⟨r, hsteps, hall, ⟨j, hj, ?_⟩, j', hj', ?_⟩
  · have hmoment : (early.alone w).moment.instant = 2 := by decide +kernel
    have hresult : (early.alone w).result = .verified (.ok ()) :=
      congrArg Result.verified (by decide +kernel)
    rw [hfirst.ended_eq, hearly, hmoment, hresult]
    · rw [hearly, hmoment, hover]
      decide
    · rw [hearly]
      exact huntied early (.inr (by decide +kernel)) (by decide +kernel)
  · have hmoment : (late.alone w).moment.instant = 5 := by decide +kernel
    have hresult : (late.alone w).result = .verified (.ok ()) :=
      congrArg Result.verified (by decide +kernel)
    rw [hsecond.ended_eq, hlate, hmoment, hresult]
    · rw [hlate, hmoment, hover]
      decide
    · rw [hlate]
      exact huntied late (.inl (by decide +kernel)) (by decide +kernel)

end TxGateway
