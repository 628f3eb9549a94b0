import TxGateway.Proofs.Traffic.Faithful

namespace TxGateway

/-! # Many callers at once

All users of a gateway share its settings and one pool of threads. Uses are issued at any time, the
threads of all of them take turns, and those that a race or a verification leaves behind stay in the
pool while later uses go on.

* `Runtime` is the whole, and `Runtime.Step` is what may happen to it.
* `Runtime.view` is what one use sees of it.
* `Coherent` is the invariant. It says that what a use sees is the way of its plan on its own, made
  from the settings that were in place at its start.
-/

/-- A use that was issued. -/
structure Ticket where
  use : Use
  start : Instant
  /-- The gateway as it was at the start. -/
  gateway : Gateway

def Ticket.plan (t : Ticket) : Plan := t.gateway.plan t.start t.use

/-- A use that was issued, and what its caller has of it. -/
structure Job where
  ticket : Ticket
  queue : List (Arrival Delivery)
  ended : Option (Instant × Result)

/-- A thread in the pool, and the number of the job that its deliveries go to. -/
structure Entry where
  owner : Nat
  thread : Thread (Option Delivery)

structure Runtime where
  now : Instant
  gateway : Gateway
  /-- All uses so far, in the order in which they were issued. -/
  jobs : List Job
  pool : List Entry

/-- The threads of a job in a pool. -/
def threadsOf (k : Nat) (pool : List Entry) : List (Thread (Option Delivery)) :=
  pool.filterMap fun e => if e.owner = k then some e.thread else none

namespace Runtime

/-- A gateway that nobody uses yet. -/
def idle (g : Gateway) (now : Instant) : Runtime := ⟨now, g, [], []⟩

def tickets (r : Runtime) : List Ticket := r.jobs.map Job.ticket

/-- What a job sees of the runtime. -/
def view (r : Runtime) (k : Nat) (j : Job) : Live := ⟨threadsOf k r.pool, j.queue, j.ended⟩

/-- The runtime when a use is issued. An update counts at once; it is a job with nothing to do. -/
def issue (w : World) (r : Runtime) (u : Use) : Runtime :=
  let ticket : Ticket := ⟨u, r.now, r.gateway⟩
  let live := Live.begin w r.now ticket.plan
  { r with
    gateway := r.gateway.after u
    jobs := r.jobs ++ [⟨ticket, live.queue, live.ended⟩]
    pool := r.pool ++ live.threads.map fun t => ⟨r.jobs.length, t⟩ }

/-- A thread has gone on; what it delivers goes to its job. -/
def resumed (r : Runtime) (before after : List Entry) (e : Entry) : Runtime :=
  { r with
    jobs := r.jobs.modify e.owner fun j => { j with queue := (r.view e.owner j).receive e.thread }
    pool := before ++ e :: after }

/-- The caller of a job goes on. -/
def closed (r : Runtime) (k : Nat) (j : Job) (taken : List (Arrival Delivery)) : Runtime :=
  { r with
    jobs := r.jobs.modify k fun j => { j with ended := some (r.now, j.ticket.plan.conclude taken) }
    pool := r.pool.map fun e =>
      if e.owner = k then { e with thread := j.ticket.plan.wait.leave r.now e.thread } else e }

/-- What may happen to the runtime. -/
inductive Step (w : World) : Runtime → Runtime → Prop
  /-- Time passes, if no job objects. -/
  | pass {r : Runtime} {t : Instant} (hle : r.now ≤ t)
      (hpass : ∀ (k : Nat) (j : Job), r.jobs[k]? = some j →
        (r.view k j).MayPass j.ticket.plan.wait r.now t) :
      Step w r { r with now := t }
  /-- Somebody uses the gateway. -/
  | issue {r : Runtime} (u : Use) : Step w r (r.issue w u)
  /-- A thread that is due goes on. -/
  | resume {r : Runtime} {before after : List Entry} {e : Entry}
      {rest : Option (Process (Option Delivery))} (hpool : r.pool = before ++ e :: after)
      (hdue : e.thread.stage = .waiting r.now rest) :
      Step w r (r.resumed before after { e with thread := e.thread.resume w })
  /-- A caller goes on. -/
  | close {r : Runtime} {k : Nat} {j : Job} {taken : List (Arrival Delivery)}
      (hjob : r.jobs[k]? = some j)
      (hready : (r.view k j).ready? j.ticket.plan.wait r.now = some taken) :
      Step w r (r.closed k j taken)

abbrev Steps (w : World) : Runtime → Runtime → Prop := Relation.ReflTransGen (Step w)

end Runtime

/-! ## The pool, seen from a job -/

section

variable {k : Nat} {pool before after : List Entry} {e : Entry}

@[simp] theorem threadsOf_append : threadsOf k (before ++ after) =
    threadsOf k before ++ threadsOf k after := List.filterMap_append

@[simp] theorem threadsOf_cons_self {t : Thread (Option Delivery)} :
    threadsOf k (⟨k, t⟩ :: after) = t :: threadsOf k after := by
  simp [threadsOf]

theorem threadsOf_cons_of_ne (h : e.owner ≠ k) : threadsOf k (e :: after) = threadsOf k after := by
  simp [threadsOf, h]

theorem threadsOf_map_self (threads : List (Thread (Option Delivery))) :
    threadsOf k (threads.map fun t => ⟨k, t⟩) = threads := by
  induction threads with
  | nil => rfl
  | cons t rest ih => rw [List.map_cons, threadsOf_cons_self, ih]

theorem threadsOf_eq_nil (h : ∀ e ∈ pool, e.owner ≠ k) : threadsOf k pool = [] := by
  refine List.filterMap_eq_nil_iff.mpr fun e he => ?_
  rw [if_neg (h e he)]

/-- What is done to the threads of one job is not done to those of another. -/
theorem threadsOf_update (owner : Nat) (f : Thread (Option Delivery) → Thread (Option Delivery)) :
    threadsOf k (pool.map fun e => if e.owner = owner then { e with thread := f e.thread } else e) =
      if k = owner then (threadsOf k pool).map f else threadsOf k pool := by
  simp only [threadsOf, List.filterMap_map, List.map_filterMap]
  split
  · next heq =>
    subst heq
    congr 1
    funext e
    by_cases he : e.owner = k <;> simp [he]
  · next hne =>
    congr 1
    funext e
    by_cases he : e.owner = owner
    · simp [he, Ne.symm hne]
    · simp [he]

end

/-! ## What a job sees -/

namespace Runtime

variable {w : World} {g : Gateway} {r r' : Runtime}

/-- A job is found where it was before something was done to one of them. -/
theorem getElem?_modify_eq_some {f : Job → Job} {jobs : List Job} {i k : Nat} {j' : Job}
    (h : (jobs.modify i f)[k]? = some j') :
    ∃ j, jobs[k]? = some j ∧ j' = if i = k then f j else j := by
  rw [List.getElem?_modify] at h
  obtain ⟨j, hj, rfl⟩ := Option.map_eq_some_iff.mp h
  exact ⟨j, hj, rfl⟩

/-- What is left alone in one job is left alone in all of them. -/
theorem map_modify_of_eq {α : Type} {field : Job → α} {f : Job → Job}
    (hf : ∀ j, field (f j) = field j) (jobs : List Job) (i : Nat) :
    (jobs.modify i f).map field = jobs.map field := by
  refine List.ext_getElem? fun k => ?_
  rw [List.getElem?_map, List.getElem?_map, List.getElem?_modify]
  cases jobs[k]? with
  | none => rfl
  | some j => by_cases h : i = k <;> simp [h, hf]

theorem exists_job {k : Nat} {t : Ticket} (h : r.tickets[k]? = some t) :
    ∃ j, r.jobs[k]? = some j ∧ j.ticket = t := by
  rwa [tickets, List.getElem?_map, Option.map_eq_some_iff] at h

theorem tickets_issue (w : World) (r : Runtime) (u : Use) :
    (r.issue w u).tickets = r.tickets ++ [⟨u, r.now, r.gateway⟩] := by
  simp [Runtime.issue, tickets]

theorem tickets_resumed (r : Runtime) (before after : List Entry) (e : Entry) :
    (r.resumed before after e).tickets = r.tickets :=
  map_modify_of_eq (by exact fun _ => rfl) r.jobs e.owner

theorem ended_resumed (r : Runtime) (before after : List Entry) (e : Entry) :
    (r.resumed before after e).jobs.map Job.ended = r.jobs.map Job.ended :=
  map_modify_of_eq (by exact fun _ => rfl) r.jobs e.owner

theorem tickets_closed (r : Runtime) (k : Nat) (j : Job) (taken : List (Arrival Delivery)) :
    (r.closed k j taken).tickets = r.tickets :=
  map_modify_of_eq (by exact fun _ => rfl) r.jobs k

/-- What is in a list that has grown by one was there before, or is new. -/
theorem getElem?_concat_eq_some {α : Type} {l : List α} {a b : α} {k : Nat}
    (h : (l ++ [a])[k]? = some b) : (k < l.length ∧ l[k]? = some b) ∨ (k = l.length ∧ b = a) := by
  rcases Nat.lt_or_ge k l.length with hlt | hge
  · rw [List.getElem?_append_left hlt] at h
    exact .inl ⟨hlt, h⟩
  · rw [List.getElem?_append_right hge, List.getElem?_singleton] at h
    split at h
    · cases h
      exact .inr ⟨by lia, rfl⟩
    · cases h

/-! What a job sees of each step: if the step is not its own, nothing at all. -/

section

variable {k i : Nat} {j j' : Job} {before after : List Entry} {e : Entry}

theorem view_issue_of_lt (u : Use) (hk : k < r.jobs.length) :
    (r.issue w u).view k j = r.view k j := by
  -- the new threads belong to the new job
  have hnew : ∀ threads : List (Thread (Option Delivery)),
      threadsOf k (threads.map fun t => ⟨r.jobs.length, t⟩) = [] := by
    intro threads
    refine threadsOf_eq_nil fun e he => ?_
    obtain ⟨t, -, rfl⟩ := List.mem_map.mp he
    exact hk.ne'
  simp only [view, Runtime.issue, threadsOf_append, hnew, List.append_nil]

theorem view_issue_self (u : Use) (howners : ∀ e ∈ r.pool, e.owner < r.jobs.length) :
    let ticket : Ticket := ⟨u, r.now, r.gateway⟩
    let live := Live.begin w r.now ticket.plan
    (r.issue w u).view r.jobs.length ⟨ticket, live.queue, live.ended⟩ = live := by
  intro ticket live
  have hothers : threadsOf r.jobs.length r.pool = [] :=
    threadsOf_eq_nil fun e he => (howners e he).ne
  simp only [view, Runtime.issue, threadsOf_append, threadsOf_map_self, hothers, List.nil_append]
  rfl

theorem view_resumed_of_ne (hpool : r.pool = before ++ e :: after) (hk : e.owner ≠ k)
    (t : Thread (Option Delivery)) :
    (r.resumed before after { e with thread := t }).view k j = r.view k j := by
  have hk' : ({ e with thread := t } : Entry).owner ≠ k := hk
  simp only [view, resumed, hpool, threadsOf_append, threadsOf_cons_of_ne hk,
    threadsOf_cons_of_ne hk']

theorem view_closed_of_ne (hk : k ≠ i) (taken : List (Arrival Delivery)) :
    (r.closed k j taken).view i j' = r.view i j' := by
  simp only [view, closed, threadsOf_update, hk.symm, if_false]

end

/-- What is true of the runtime at every point. -/
structure Coherent (w : World) (g : Gateway) (r : Runtime) : Prop where
  owners : ∀ e ∈ r.pool, e.owner < r.jobs.length
  alone : ∀ (k : Nat) (j : Job), r.jobs[k]? = some j →
    Alone w j.ticket.plan j.ticket.start r.now (r.view k j)
  installed : ∀ (k : Nat) (t : Ticket), r.tickets[k]? = some t →
    t.gateway = g.afterAll ((r.tickets.take k).map Ticket.use)
  current : r.gateway = g.afterAll (r.tickets.map Ticket.use)

theorem coherent_idle (w : World) (g : Gateway) (now : Instant) : Coherent w g (.idle g now) where
  owners := fun _ h => nomatch h
  alone := fun _ _ h => nomatch h
  installed := fun _ _ h => nomatch h
  current := rfl

namespace Coherent

variable (h : Coherent w g r)

include h

theorem issue (u : Use) : Coherent w g (r.issue w u) := by
  constructor
  case owners =>
    intro e he
    simp only [Runtime.issue, List.length_append, List.length_singleton]
    rcases List.mem_append.mp he with he | he
    · exact Nat.lt_succ_of_lt (h.owners e he)
    · obtain ⟨t, -, rfl⟩ := List.mem_map.mp he
      exact Nat.lt_succ_self _
  case alone =>
    intro k j hj
    rcases getElem?_concat_eq_some hj with ⟨hk, hold⟩ | ⟨rfl, rfl⟩
    · rw [view_issue_of_lt u hk]
      exact h.alone k j hold
    · let ticket : Ticket := ⟨u, r.now, r.gateway⟩
      let live := Live.begin w r.now ticket.plan
      show Alone w ticket.plan r.now r.now
        ((r.issue w u).view r.jobs.length ⟨ticket, live.queue, live.ended⟩)
      rw [view_issue_self u h.owners]
      exact .begin
  case installed =>
    intro k t ht
    rw [tickets_issue] at ht ⊢
    rcases getElem?_concat_eq_some ht with ⟨hk, hold⟩ | ⟨rfl, rfl⟩
    · rw [List.take_append_of_le_length hk.le]
      exact h.installed k t hold
    · rw [List.take_left']
      · exact h.current
      · rfl
  case current =>
    rw [tickets_issue]
    show r.gateway.after u = _
    rw [h.current, List.map_append]
    simp [Gateway.afterAll, List.foldl_append]

theorem pass {t : Instant} (hle : r.now ≤ t)
    (hpass : ∀ (k : Nat) (j : Job), r.jobs[k]? = some j →
      (r.view k j).MayPass j.ticket.plan.wait r.now t) : Coherent w g { r with now := t } where
  owners := h.owners
  alone := fun k j hj => (h.alone k j hj).pass hle (hpass k j hj)
  installed := h.installed
  current := h.current

theorem resume {before after : List Entry} {e : Entry} {rest : Option (Process (Option Delivery))}
    (hpool : r.pool = before ++ e :: after) (hdue : e.thread.stage = .waiting r.now rest) :
    Coherent w g (r.resumed before after { e with thread := e.thread.resume w }) := by
  constructor
  case owners =>
    intro d hd
    have howners := h.owners
    rw [hpool] at howners
    simp only [resumed, List.length_modify]
    simp only [resumed, List.mem_append, List.mem_cons] at hd
    rcases hd with hd | rfl | hd
    · exact howners d (by simp [hd])
    · exact howners e (by simp)
    · exact howners d (by simp [hd])
  case alone =>
    intro k j' hj'
    obtain ⟨j, hj, rfl⟩ := getElem?_modify_eq_some hj'
    have halone := h.alone k j hj
    -- the job that the thread belongs to takes this step by itself, and no other job sees it
    by_cases hk : e.owner = k
    · subst hk
      have hact := @Live.Act.resume w j.ticket.plan r.now (r.view e.owner j) _ _ e.thread rest
        (by rw [view, hpool, threadsOf_append, threadsOf_cons_self]) hdue
      simpa [view, resumed] using halone.act hact
    · rw [if_neg hk, view_resumed_of_ne hpool hk]
      exact halone
  case installed =>
    rw [tickets_resumed]
    exact h.installed
  case current =>
    rw [tickets_resumed]
    exact h.current

theorem close {k : Nat} {j : Job} {taken : List (Arrival Delivery)} (hjob : r.jobs[k]? = some j)
    (hready : (r.view k j).ready? j.ticket.plan.wait r.now = some taken) :
    Coherent w g (r.closed k j taken) := by
  constructor
  case owners =>
    intro e he
    obtain ⟨d, hd, rfl⟩ := List.mem_map.mp he
    simp only [closed, List.length_modify]
    split <;> exact h.owners d hd
  case alone =>
    intro i j' hj'
    obtain ⟨j₀, hj₀, rfl⟩ := getElem?_modify_eq_some hj'
    have halone := h.alone i j₀ hj₀
    -- threads of another job stay as they are, even if those of this job are broken off
    by_cases hi : k = i
    · subst hi
      rw [hjob] at hj₀
      cases hj₀
      have hact := halone.act (.close hready)
      simpa [view, closed, threadsOf_update, Live.close] using hact
    · rw [if_neg hi, view_closed_of_ne hi]
      exact halone
  case installed =>
    rw [tickets_closed]
    exact h.installed
  case current =>
    rw [tickets_closed]
    exact h.current

theorem step (hstep : Step w r r') : Coherent w g r' := by
  cases hstep with
  | pass hle hpass => exact h.pass hle hpass
  | issue u => exact h.issue u
  | resume hpool hdue => exact h.resume hpool hdue
  | close hjob hready => exact h.close hjob hready

/-- Whatever users do, and whatever turns threads take. -/
theorem steps (hsteps : Steps w r r') : Coherent w g r' := by
  induction hsteps with
  | refl => exact h
  | tail _ hstep ih => exact ih.step hstep

end Coherent

end Runtime

end TxGateway
