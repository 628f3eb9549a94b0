import Mathlib.Data.ENat.Basic
import TxGateway.Proofs.Activity
import TxGateway.Provider

namespace TxGateway

/-! # Responses under a limit

A caller that drops a call after some time sees only a part of the response. Here the calls of
providers are brought into one form: the response that the outside has for the call, read as the
provider reads it, and cut off at the limit.

* `Response.course` is what a caller sees of a response.
* `Provider.submission` and `Provider.sighting` are the responses to the two calls of a provider.
* `submit_eq` and `lookUp_eq` say that the provider's activities are the courses of these.
-/

namespace Response

variable {α β : Type}

/-- The response with its reply read in another form. -/
def map (f : Reply α → Reply β) : Response α → Response β
  | .answer delay reply => .answer delay (f reply)
  | .crash delay => .crash delay
  | .silence => .silence

/-- How long the response takes. -/
def delay : Response α → ℕ∞
  | .answer delay _ => delay
  | .crash delay => delay
  | .silence => ⊤

/-- The task that called is not heard of any more. -/
def IsCrash (r : Response α) : Prop := ∃ delay, r = .crash delay

/-- The response is a record that reaches a wanted inclusion. -/
def Shows (id : String) (wanted : Inclusion) (x : Response TxRecord) (r : TxRecord) : Prop :=
  ∃ delay, x = .answer delay (.ok r) ∧ wanted.metBy id r = true

/-- A call that is dropped after a time without a response. -/
def dropped (c : Call) (limit : Nat) (now : Instant) : Timeline (Option (Reply α)) :=
  ⟨[⟨c, now, now + limit, .late⟩], now + limit, some none⟩

/-- What a caller sees who makes a call now, and drops it if no response has come within a limit. -/
def course (c : Call) (limit : Nat) (now : Instant) : Response α → Timeline (Option (Reply α))
  | .answer delay reply =>
    if delay ≤ limit then ⟨[⟨c, now, now + delay, .answered⟩], now + delay, some (some reply)⟩
    else dropped c limit now
  | .crash delay =>
    if delay ≤ limit then ⟨[⟨c, now, now + delay, .crashed⟩], now + delay, none⟩
    else dropped c limit now
  | .silence => dropped c limit now

/-- How long a call takes that is dropped at a limit. -/
def duration (limit : Nat) : Response α → Nat
  | .answer delay _ => min delay limit
  | .crash delay => min delay limit
  | .silence => limit

theorem duration_le (limit : Nat) (r : Response α) : r.duration limit ≤ limit := by
  cases r <;> simp [duration]

theorem duration_of_lt {limit : Nat} {r : Response α} (h : (limit : ℕ∞) < r.delay) :
    r.duration limit = limit := by
  cases r with
  | answer d x => exact Nat.min_eq_right (le_of_lt (by simpa [delay] using h))
  | crash d => exact Nat.min_eq_right (le_of_lt (by simpa [delay] using h))
  | silence => rfl

theorem duration_map (f : Reply α → Reply β) (limit : Nat) (r : Response α) :
    (r.map f).duration limit = r.duration limit := by
  cases r <;> rfl

theorem map_eq_answer {f : Reply α → Reply β} {x : Response α} {d : Nat} {y : Reply β} :
    x.map f = .answer d y ↔ ∃ reply, x = .answer d reply ∧ f reply = y := by
  cases x with
  | answer d' reply => simp [map, and_assoc]
  | crash d' => simp [map]
  | silence => simp [map]

/-! ## Courses -/

theorem course_answer_of_le {c : Call} {limit d : Nat} {now : Instant} {reply : Reply α}
    (h : d ≤ limit) : course c limit now (.answer d reply) =
      ⟨[⟨c, now, now + d, .answered⟩], now + d, some (some reply)⟩ := by
  simp [course, h]

theorem course_crash_of_le {c : Call} {limit d : Nat} {now : Instant} (h : d ≤ limit) :
    course c limit now (.crash d : Response α) =
      ⟨[⟨c, now, now + d, .crashed⟩], now + d, none⟩ := by
  simp [course, h]

theorem course_of_lt {c : Call} {limit : Nat} {now : Instant} {r : Response α}
    (h : (limit : ℕ∞) < r.delay) : r.course c limit now = dropped c limit now := by
  cases r with
  | answer d reply =>
    have hd : limit < d := by simpa [delay] using h
    simp [course, Nat.not_le.mpr hd]
  | crash d =>
    have hd : limit < d := by simpa [delay] using h
    simp [course, Nat.not_le.mpr hd]
  | silence => rfl

/-- However a call ends, it is one call from now to the end of the course. -/
theorem course_shape (c : Call) (limit : Nat) (now : Instant) (r : Response α) :
    ∃ fate value, r.course c limit now =
      ⟨[⟨c, now, now + r.duration limit, fate⟩], now + r.duration limit, value⟩ := by
  have hlate : ∀ {d}, ¬ d ≤ limit → min d limit = limit :=
    fun h => Nat.min_eq_right (Nat.le_of_not_le h)
  cases r with
  | answer d reply =>
    by_cases h : d ≤ limit
    · exact ⟨.answered, some (some reply), by simp [course, duration, h]⟩
    · exact ⟨.late, some none, by simp [course, dropped, duration, h, hlate h]⟩
  | crash d =>
    by_cases h : d ≤ limit
    · exact ⟨.crashed, none, by simp [course, duration, h]⟩
    · exact ⟨.late, some none, by simp [course, dropped, duration, h, hlate h]⟩
  | silence => exact ⟨.late, some none, rfl⟩

theorem course_calls (c : Call) (limit : Nat) (now : Instant) (r : Response α) :
    ∃ fate, (r.course c limit now).calls = [⟨c, now, now + r.duration limit, fate⟩] := by
  obtain ⟨fate, value, h⟩ := r.course_shape c limit now
  exact ⟨fate, by rw [h]⟩

theorem course_finish (c : Call) (limit : Nat) (now : Instant) (r : Response α) :
    (r.course c limit now).finish = now + r.duration limit := by
  obtain ⟨fate, value, h⟩ := r.course_shape c limit now
  rw [h]

/-- A reply is heard if and only if it comes within the limit. -/
theorem course_value_eq_reply {c : Call} {limit : Nat} {now : Instant} {r : Response α}
    {reply : Reply α} :
    (r.course c limit now).value = some (some reply) ↔ ∃ d ≤ limit, r = .answer d reply := by
  cases r with
  | answer d x =>
    by_cases h : d ≤ limit
    · simp [course, h]
    · simp only [course, h, if_false, dropped]
      constructor
      · intro hv
        simp at hv
      · rintro ⟨d', hd', hr⟩
        cases hr
        exact absurd hd' h
  | crash d =>
    by_cases h : d ≤ limit <;> simp [course, dropped, h]
  | silence => simp [course, dropped]

/-- There is no reply if and only if the response takes longer than the limit. -/
theorem course_value_eq_no_reply {c : Call} {limit : Nat} {now : Instant} {r : Response α} :
    (r.course c limit now).value = some none ↔ (limit : ℕ∞) < r.delay := by
  cases r with
  | answer d x =>
    by_cases h : d ≤ limit
    · simp [course, delay, h]
    · simp [course, dropped, delay, h, Nat.lt_of_not_le h]
  | crash d =>
    by_cases h : d ≤ limit
    · simp [course, delay, h]
    · simp [course, dropped, delay, h, Nat.lt_of_not_le h]
  | silence => simp [course, dropped, delay]

theorem gapless_course (c : Call) (limit : Nat) (now : Instant) (r : Response α) :
    Gapless now (r.course c limit now).calls (r.course c limit now).finish := by
  obtain ⟨fate, hcalls⟩ := r.course_calls c limit now
  rw [hcalls, r.course_finish]
  exact ⟨rfl, Nat.le_add_right _ _, rfl⟩

/-- A reply that is read in another form takes the same course. -/
theorem course_map (c : Call) (limit : Nat) (now : Instant) (f : Reply α → Reply β)
    (r : Response α) : (r.map f).course c limit now =
      ⟨(r.course c limit now).calls, (r.course c limit now).finish,
        (r.course c limit now).value.map fun reply => reply.map f⟩ := by
  cases r with
  | answer d reply => by_cases h : d ≤ limit <;> simp [course, map, dropped, h]
  | crash d => by_cases h : d ≤ limit <;> simp [course, map, dropped, h]
  | silence => rfl

end Response

/-! ## The calls of providers -/

/-- A call of the outside is the course of the response to it. -/
theorem Activity.ask_eq (c : Call) (deadline : Instant) (w : World) (now : Instant) :
    Activity.ask c deadline w now = (w now c).course c (deadline - now) now := by
  have hmax : max now deadline = now + (deadline - now) := by lia
  -- a call that is answered at once is in time even when the deadline is over, and then no time
  -- at all is left
  have hwithin : ∀ d, (d = 0 ∨ now + d ≤ deadline) ↔ d ≤ deadline - now := by
    intro d
    lia
  cases h : w now c with
  | answer d reply =>
    simp only [Activity.ask, h, Activity.within, hwithin, hmax]
    rfl
  | crash d =>
    simp only [Activity.ask, h, Activity.within, hwithin, hmax]
    rfl
  | silence =>
    simp only [Activity.ask, h, hmax]
    rfl

theorem Activity.makes_ask (c : Call) (deadline : Instant) :
    Activity.Makes (· = c) (Activity.ask c deadline) := by
  intro w now
  rw [Activity.ask_eq]
  refine ⟨Response.gapless_course _ _ _ _, ?_⟩
  intro t ht
  obtain ⟨fate, hcalls⟩ := (w now c).course_calls c (deadline - now) now
  rw [hcalls, List.mem_singleton] at ht
  rw [ht]

namespace Provider

/-- The call by which a transaction is handed to the provider. -/
def submitCall (p : Provider) (hex : String) : Call :=
  match p with
  | .miner m => .submit m hex
  | .outlet o _ => .publish o hex

/-- The call by which the provider is asked for a transaction. -/
def lookUpCall (p : Provider) (id : String) : Call :=
  match p with
  | .miner m => .status m id
  | .outlet o _ => .find o id

/-- The response to a submission at an instant: acceptance, or the error that refuses it. -/
def submission (p : Provider) (id hex : String) (w : World) (now : Instant) : Response Unit :=
  match p with
  | .miner m => (w now (.submit m hex)).map fun r => r.bind verdictOf
  | .outlet o _ => (w now (.publish o hex)).map fun r => r.bind (checkId id)

/-- The response to a look-up at an instant: a record about the transaction, or an error. -/
def sighting (p : Provider) (id : String) (w : World) (now : Instant) : Response TxRecord :=
  match p with
  | .miner m => (w now (.status m id)).map fun r => (r.bind (recordOfMiner m.name)).bind (about id)
  | .outlet o name => (w now (.find o id)).map fun r => (r.map (recordOfChain name)).bind (about id)

/-- A call whose reply is read in another form has the course of the response read so. -/
theorem ask_map_eq {β : Type} (c : Call) (deadline : Instant) (f : Reply c.Answer → Reply β)
    (w : World) (now : Instant) :
    (do let reply ← Activity.ask c deadline; return reply.map f : Activity (Option (Reply β)))
        w now = ((w now c).map f).course c (deadline - now) now := by
  rw [Response.course_map, ← Activity.ask_eq]
  exact Activity.bind_pure_apply _

/-- What is read off an answer is the answer itself, if it is about the transaction. -/
theorem bind_about_eq_ok {id : String} {x : Reply TxRecord} {r : TxRecord} :
    x.bind (about id) = .ok r ↔ x = .ok r ∧ TxId.agrees id r.id = true := by
  have habout : ∀ y, about id y = .ok r ↔ y = r ∧ TxId.agrees id r.id = true := by
    intro y
    show Except.bind (checkId id y.id) (fun _ => .ok y) = .ok r ↔ _
    unfold checkId
    by_cases h : TxId.agrees id y.id
    · simp only [h, if_true, Except.bind, Except.ok.injEq]
      exact ⟨fun hy => ⟨hy, hy ▸ h⟩, fun hy => hy.1⟩
    · simp only [h, if_false, Except.bind, Bool.false_eq_true]
      constructor
      · intro hy
        cases hy
      · rintro ⟨rfl, hr⟩
        exact absurd hr h
  cases x with
  | error e => simp [Except.bind]
  | ok y =>
    rw [Except.ok.injEq]
    exact habout y

/-- A record names the provider that gave it. -/
theorem provider_of_sighting {p : Provider} {id : String} {w : World} {now : Instant} {d : Nat}
    {r : TxRecord} (h : p.sighting id w now = .answer d (.ok r)) : r.provider = p.name := by
  cases p with
  | miner m =>
    obtain ⟨x, -, hx⟩ := Response.map_eq_answer.mp h
    have hrecord := (bind_about_eq_ok.mp hx).1
    cases x with
    | error e => cases hrecord
    | ok s =>
      have hs : recordOfMiner m.name s = .ok r := hrecord
      unfold recordOfMiner at hs
      split at hs
      · cases hs
        rfl
      · cases hs
  | outlet o name =>
    obtain ⟨x, -, hx⟩ := Response.map_eq_answer.mp h
    have hrecord := (bind_about_eq_ok.mp hx).1
    cases x with
    | error e => cases hrecord
    | ok s =>
      cases hrecord
      rfl

theorem submit_eq (p : Provider) (id hex : String) (deadline : Instant) (w : World)
    (now : Instant) : p.submit id hex deadline w now =
      (p.submission id hex w now).course (p.submitCall hex) (deadline - now) now := by
  cases p with
  | miner m => exact ask_map_eq (.submit m hex) deadline _ w now
  | outlet o name => exact ask_map_eq (.publish o hex) deadline _ w now

theorem lookUp_eq (p : Provider) (id : String) (deadline : Instant) (w : World) (now : Instant) :
    p.lookUp id deadline w now =
      (p.sighting id w now).course (p.lookUpCall id) (deadline - now) now := by
  cases p with
  | miner m => exact ask_map_eq (.status m id) deadline _ w now
  | outlet o name => exact ask_map_eq (.find o id) deadline _ w now

theorem makes_submit (p : Provider) (id hex : String) (deadline : Instant) :
    Activity.Makes (· = p.submitCall hex) (p.submit id hex deadline) := by
  cases p with
  | miner m =>
    exact Activity.Makes.bind (Activity.makes_ask _ _) fun _ => Activity.makes_pure _
  | outlet o name =>
    exact Activity.Makes.bind (Activity.makes_ask _ _) fun _ => Activity.makes_pure _

theorem makes_lookUp (p : Provider) (id : String) (deadline : Instant) :
    Activity.Makes (· = p.lookUpCall id) (p.lookUp id deadline) := by
  cases p with
  | miner m =>
    exact Activity.Makes.bind (Activity.makes_ask _ _) fun _ => Activity.makes_pure _
  | outlet o name =>
    exact Activity.Makes.bind (Activity.makes_ask _ _) fun _ => Activity.makes_pure _

end Provider

end TxGateway
