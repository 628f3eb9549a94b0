import TxGateway.Operation.Broadcast
import TxGateway.Operation.Race
import TxGateway.Operation.Verification
import TxGateway.Proofs.Response
import TxGateway.Schedule.Scope

namespace TxGateway

/-! # Whom operations call

An operation calls nobody but those that it is given. This holds whatever the outside answers, and
for calls that outlast the operation too, so it says nothing of times and results.

* `Broadcast.makes_attempt`, `Search.makes_inOrder`, `Race.makes_ask` and
  `Verification.makes_ask` are about single tasks.
* `Broadcast.run_contacts`, `Race.run_contacts` and `Verification.run_contacts` are about whole
  operations.
-/

open Activity

/-- All calls that a step makes, those that outlast it too. -/
def Run.allCalls {α : Type} (r : Run α) : List CallTrace := r.calls ++ r.stragglers

namespace Scope

variable {α : Type} {start deadline : Instant} {policy : Stragglers} {tasks : List (Task α)}
  {c : CallTrace}

/-- A wait for the first delivery shows no calls but those of the tasks. Some are broken off, and so
end otherwise than they would have. -/
theorem mem_allCalls_first (h : c ∈ (first start deadline policy tasks).allCalls) :
    ∃ t ∈ tasks, ∃ d ∈ t.calls, c.call = d.call := by
  have hcalls : ∀ {d}, d ∈ calls tasks → ∃ t ∈ tasks, ∃ d' ∈ t.calls, d.call = d'.call := by
    intro d hd
    obtain ⟨t, ht, hd⟩ := List.mem_flatMap.mp hd
    exact ⟨t, ht, d, hd, rfl⟩
  cases policy with
  | detach =>
    rcases List.mem_append.mp h with h | h
    · exact hcalls (List.mem_filter.mp h).1
    · exact hcalls (List.mem_filter.mp h).1
  | abort =>
    rcases List.mem_append.mp h with h | h
    · rcases List.mem_append.mp h with h | h
      · exact hcalls (List.mem_filter.mp h).1
      · obtain ⟨d, hd, rfl⟩ := List.mem_map.mp h
        exact hcalls (d := d) (List.mem_filter.mp (List.mem_filter.mp hd).1).1
    · cases h

theorem mem_allCalls_drain (h : c ∈ (drain start tasks).allCalls) :
    ∃ t ∈ tasks, ∃ d ∈ t.calls, c.call = d.call := by
  rcases List.mem_append.mp h with h | h
  · obtain ⟨t, ht, hc⟩ := List.mem_flatMap.mp h
    exact ⟨t, ht, c, hc, rfl⟩
  · cases h

end Scope

/-! ## Searches and races -/

/-- A search makes no calls but look-ups at its providers. -/
theorem Search.makes_inOrder (id : String) (wanted : Inclusion) (deadline : Instant)
    (ps : List Provider) :
    Makes (fun c => ∃ p ∈ ps, c = p.lookUpCall id) (Search.inOrder id wanted deadline ps) := by
  induction ps with
  | nil => exact makes_pure _
  | cons p rest ih =>
    have hrest : Makes (fun c => ∃ q ∈ p :: rest, c = q.lookUpCall id)
        (Search.inOrder id wanted deadline rest) :=
      ih.mono fun c ⟨q, hq, hc⟩ => ⟨q, List.mem_cons_of_mem _ hq, hc⟩
    refine Makes.bind ?_ fun reply => ?_
    · exact (p.makes_lookUp id deadline).mono fun c hc => ⟨p, List.mem_cons_self, hc⟩
    · match reply with
      | none => exact makes_pure _
      | some (.error _) => exact hrest
      | some (.ok r) =>
        show Makes _ (if wanted.metBy id r then _ else _)
        split
        · exact makes_pure _
        · exact hrest

namespace Race

theorem makes_ask (id : String) (wanted : Inclusion) (deadline : Instant) (p : Provider) :
    Makes (· = p.lookUpCall id) (ask id wanted deadline p) := by
  refine Makes.bind (p.makes_lookUp id deadline) fun reply => ?_
  match reply with
  | none => exact makes_pure _
  | some (.error e) => exact makes_pure _
  | some (.ok r) => exact makes_pure _

theorem run_contacts {w : World} {start : Instant} {ps : List Provider} {id : String}
    {wanted : Inclusion} {deadline : Instant} {policy : Stragglers} {c : CallTrace}
    (h : c ∈ (run w start ps id wanted deadline policy).allCalls) :
    ∃ p ∈ ps, c.call = p.lookUpCall id := by
  obtain ⟨t, ht, d, hd, hc⟩ := Scope.mem_allCalls_first h
  obtain ⟨p, hp, rfl⟩ := List.mem_map.mp ht
  exact ⟨p, hp, hc.trans ((makes_ask id wanted deadline p).call hd)⟩

end Race

/-! ## Broadcasts -/

namespace Broadcast

theorem makes_settle (request : Request) (e : ProviderError) :
    Makes (fun c => ∃ q ∈ request.fallback, c = q.lookUpCall request.id)
      (settle request e) := by
  unfold settle
  split
  · exact makes_pure _
  · exact makes_pure _
  · refine Makes.bind makes_now fun now => ?_
    refine Makes.bind (Search.makes_inOrder _ _ _ _) fun found => ?_
    cases found with
    | none => exact makes_pure _
    | some r => exact makes_pure _

/-- A task submits to its provider, and then makes at most look-ups at the providers to fall back
on. -/
theorem makes_attempt (request : Request) (p : Provider) :
    Makes (fun c => c = p.submitCall request.hex ∨
      ∃ q ∈ request.fallback, c = q.lookUpCall request.id) (attempt request p) := by
  refine Makes.bind ((p.makes_submit _ _ _).mono fun c hc => .inl hc) fun reply => ?_
  cases reply.getD (.error .late) with
  | ok u => exact makes_pure _
  | error e =>
    refine Makes.bind ?_ fun failure => makes_pure _
    exact (makes_settle request e).mono fun c hc => .inr hc

theorem run_contacts {w : World} {start : Instant} {ps : List Provider} {request : Request}
    {latch : Latch} {c : CallTrace} (h : c ∈ (run w start ps request latch).allCalls) :
    (∃ p ∈ ps, c.call = p.submitCall request.hex) ∨
      ∃ q ∈ request.fallback, c.call = q.lookUpCall request.id := by
  cases ps with
  | nil => cases h
  | cons p rest =>
    have hdrain : c ∈ (Scope.drain start
        ((p :: rest).map fun p => attempt request p w start)).allCalls := h
    obtain ⟨t, ht, d, hd, hc⟩ := Scope.mem_allCalls_drain hdrain
    obtain ⟨p', hp', rfl⟩ := List.mem_map.mp ht
    rw [hc]
    rcases (makes_attempt request p').call hd with hsubmit | hfallback
    · exact .inl ⟨p', hp', hsubmit⟩
    · exact .inr hfallback

end Broadcast

/-! ## Verifications -/

namespace Verification

theorem makes_ask (roots : List RootClaim) (deadline : Instant) (position : Nat)
    (verifier : String) :
    Makes (· = .verify position roots) (ask roots deadline position verifier) :=
  Makes.bind (Activity.makes_ask _ _) fun _ => makes_pure _

theorem run_contacts {w : World} {start : Instant} {verifiers : List String}
    {roots : List RootClaim} {deadline : Instant} {policy : Stragglers} {c : CallTrace}
    (h : c ∈ (run w start verifiers roots deadline policy).allCalls) :
    ∃ position < verifiers.length, c.call = .verify position roots := by
  unfold run at h
  split at h
  · cases h
  · split at h
    · cases h
    · obtain ⟨t, ht, d, hd, hc⟩ := Scope.mem_allCalls_first h
      obtain ⟨position, hposition, rfl⟩ := List.mem_mapIdx.mp ht
      exact ⟨position, hposition,
        hc.trans ((makes_ask roots deadline position _).call hd)⟩

end Verification

end TxGateway
