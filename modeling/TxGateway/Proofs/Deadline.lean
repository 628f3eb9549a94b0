import TxGateway.Proofs.Broadcast.Verdict

namespace TxGateway

/-! # Deadlines

What is started in time ends in time. A task may chain many calls, each of which has a limit of its
own, so this is shown for a single call and passed on along the chain.

* `Activity.EndsBy` says that an activity that is started by a deadline ends by it, and
  `Activity.EndsBy.bind` passes this on.
* `Search.endsBy_inOrder` is about searches along any number of providers, and
  `Broadcast.endsBy_attempt` about the tasks of a broadcast.
-/

namespace Activity

variable {α β : Type} {x : Activity α} {next : α → Activity β} {deadline : Instant}

/-- If it is started by the deadline, the activity ends by the deadline. -/
def EndsBy (deadline : Instant) (x : Activity α) : Prop :=
  ∀ w now, now ≤ deadline → (x w now).finish ≤ deadline

theorem endsBy_pure (a : α) : EndsBy deadline (pure a : Activity α) := by
  intro w now hnow
  exact hnow

theorem EndsBy.bind (hx : EndsBy deadline x) (hnext : ∀ a, EndsBy deadline (next a)) :
    EndsBy deadline (x >>= next) := by
  intro w now hnow
  cases h : (x w now).value with
  | none =>
    rw [bind_of_none h]
    exact hx w now hnow
  | some a =>
    -- what comes next starts when the first activity ends, which is by the deadline
    rw [bind_of_some h]
    exact hnext a w _ (hx w now hnow)

end Activity

open Activity

namespace Provider

variable {deadline : Instant} (p : Provider) (id hex : String)

theorem endsBy_submit (deadline : Instant) : EndsBy deadline (p.submit id hex deadline) := by
  intro w now hnow
  have hduration := (p.submission id hex w now).duration_le (deadline - now)
  rw [p.submit_eq, Response.course_finish]
  lia

/-- A look-up that may not outlast a limit does not outlast a later deadline. -/
theorem endsBy_lookUp {limit : Instant} (hlimit : limit ≤ deadline) :
    EndsBy deadline (p.lookUp id limit) := by
  intro w now hnow
  have hduration := (p.sighting id w now).duration_le (limit - now)
  rw [p.lookUp_eq, Response.course_finish]
  lia

end Provider

/-- However many providers it asks, a search does not outlast its limit. -/
theorem Search.endsBy_inOrder (id : String) (wanted : Inclusion) {limit deadline : Instant}
    (hlimit : limit ≤ deadline) (ps : List Provider) :
    EndsBy deadline (Search.inOrder id wanted limit ps) := by
  -- along the providers: the rest of the search has the same limit
  induction ps with
  | nil => exact endsBy_pure _
  | cons p rest ih =>
    apply EndsBy.bind (p.endsBy_lookUp id hlimit)
    intro reply
    match reply with
    | none => exact endsBy_pure _
    | some (.error _) => exact ih
    | some (.ok r) =>
      show EndsBy _ (if wanted.metBy id r then _ else _)
      split
      · exact endsBy_pure _
      · exact ih

namespace Broadcast

variable {request : Request} {w : World} {t : Instant}

/-- The search that a refusal leads to ends within its own limit and that of the broadcast. -/
theorem inquiry_finish_le (ht : t ≤ request.deadline) :
    (request.inquiry w t).finish ≤ min request.deadline (t + request.fallbackLimit) := by
  have hlimit : t ≤ min request.deadline (t + request.fallbackLimit) :=
    Nat.le_min.mpr ⟨ht, Nat.le_add_right _ _⟩
  exact Search.endsBy_inOrder _ _ (Nat.le_refl _) _ w t hlimit

theorem endsBy_settle (request : Request) (e : ProviderError) :
    EndsBy request.deadline (settle request e) := by
  intro w now hnow
  cases hwords : Wording.classify e.message with
  | alreadyKnown =>
    rw [settle_of_known hwords]
    exact hnow
  | failure =>
    rw [settle_of_failure hwords]
    exact hnow
  | questionable =>
    rw [settle_of_questionable hwords]
    exact (inquiry_finish_le hnow).trans (Nat.min_le_left _ _)

/-- The submission of a task has the limit of the broadcast, and what follows may not outlast it. -/
theorem endsBy_attempt (request : Request) (p : Provider) :
    EndsBy request.deadline (attempt request p) := by
  apply EndsBy.bind (p.endsBy_submit request.id request.hex request.deadline)
  intro reply
  cases reply.getD (.error .late) with
  | ok u => exact endsBy_pure _
  | error e => exact (endsBy_settle request e).bind fun failure => endsBy_pure _

end Broadcast

end TxGateway
