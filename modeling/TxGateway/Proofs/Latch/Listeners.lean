import Mathlib.Logic.Function.Basic
import Mathlib.Logic.Relation
import TxGateway.Schedule.Latch

namespace TxGateway.Latch

/-! # Many who record and many who wait

Any number of callers record names in one latch, and any number wait for a name, all at the same
time. To record takes two steps: the cell is filled if it is empty, and whoever has filled it
notifies all who are registered. To wait is a loop: register, look at the cell, go to sleep if it is
empty, and begin anew when notified. The steps of all callers come in any order.

* `Shared` is a latch with all of its callers, and `Step` is what one of them may do.
* `Open` and `Decided` are the invariant: nobody has recorded, or one has, and its name is kept.
* `Open.step` and `Decided.step` are the steps, and `Steps.open_or_decided` is about all states.
* `latch_loses_no_listener` is what those who wait may rely on.
-/

/-- How far a call that records a name has come. -/
inductive Recording where
  | idle
  /-- It has filled the cell, and has still to notify those who wait. -/
  | notifying
  /-- It has returned whether it was the first. -/
  | returned (first : Bool)
deriving DecidableEq

/-- How far a call that waits for a name has come. Once it is registered it gets whatever is notified
from then on, no matter what it is about to do itself. -/
inductive Listener where
  | arriving
  /-- It is registered, and has still to look at the cell. -/
  | registered (notified : Bool)
  /-- It has found the cell empty, and is about to go to sleep. -/
  | resigned (notified : Bool)
  | asleep (notified : Bool)
  | returned (name : String)
deriving DecidableEq

namespace Listener

def notify : Listener → Listener
  | .registered _ => .registered true
  | .resigned _ => .resigned true
  | .asleep _ => .asleep true
  | l => l

/-- Its next step, with what is in the cell. Who sleeps needs to be notified. -/
def next? (cell : Option String) : Listener → Option Listener
  | .arriving => some (.registered false)
  | .registered b =>
    match cell with
    | some name => some (.returned name)
    | none => some (.resigned b)
  | .resigned b => some (.asleep b)
  | .asleep true => some .arriving
  | .asleep false => none
  | .returned _ => none

/-- It has given up the cell, and has not been notified since it was registered. -/
def Unaware (l : Listener) : Prop := l = .resigned false ∨ l = .asleep false

/-- How many steps it needs to return, when the cell is full and it is not unaware. -/
def todo : Listener → Nat
  | .resigned _ => 4
  | .asleep _ => 3
  | .arriving => 2
  | .registered _ => 1
  | .returned _ => 0

variable {l l' : Listener} {name : String}

theorem todo_notify (l : Listener) : l.notify.todo = l.todo := by
  cases l <;> rfl

theorem not_unaware_notify (l : Listener) : ¬ l.notify.Unaware := by
  cases l <;> simp [notify, Unaware]

theorem notify_eq_returned_iff : l.notify = .returned name ↔ l = .returned name := by
  cases l <;> simp [notify]

/-- Nobody gets a name out of an empty cell. -/
theorem ne_returned_of_next? (h : l.next? none = some l') : l' ≠ .returned name := by
  rintro rfl
  rcases l with _ | _ | _ | (_ | _) | _ <;> cases h

/-- Who gets a name out of a cell gets the one that is there. -/
theorem eq_of_next?_returned {other : String} (h : l.next? (some name) = some (.returned other)) :
    other = name := by
  rcases l with _ | _ | _ | (_ | _) | _ <;> cases h
  rfl

/-- Nobody gives up a cell that is full. -/
theorem unaware_of_next? (h : l.next? (some name) = some l') (hl' : l'.Unaware) : l.Unaware := by
  rcases hl' with rfl | rfl
  · rcases l with _ | _ | _ | (_ | _) | _ <;> cases h
  · rcases l with _ | _ | b | (_ | _) | _ <;> cases h
    exact .inl rfl

theorem todo_lt_of_next? (h : l.next? (some name) = some l') : l'.todo < l.todo := by
  rcases l with _ | _ | _ | (_ | _) | _ <;> cases h <;> simp [todo]

/-- With a full cell only those are held up who have not been notified. -/
theorem exists_next? (hl : ¬ l.Unaware) (hreturned : ∀ name, l ≠ .returned name) :
    ∃ l', l.next? (some name) = some l' := by
  rcases l with _ | _ | _ | (_ | _) | other
  · exact ⟨_, rfl⟩
  · exact ⟨_, rfl⟩
  · exact ⟨_, rfl⟩
  · exact absurd (.inr rfl) hl
  · exact ⟨_, rfl⟩
  · exact absurd rfl (hreturned other)

theorem todo_le (l : Listener) : l.todo ≤ 4 := by
  cases l <;> simp [todo]

end Listener

/-! ## A latch in use -/

/-- A latch with those who record in it and those who wait for it. -/
structure Shared (ι κ : Type) where
  watch : Watch
  recordings : ι → Recording
  listeners : κ → Listener

variable {ι κ : Type}

namespace Shared

/-- Nobody has done anything yet. -/
def begin (now : Instant) : Shared ι κ := ⟨{ now }, fun _ => .idle, fun _ => .arriving⟩

/-- The call has filled the cell. It has returned that it was the first, or is to do so. -/
def Wins (s : Shared ι κ) (i : ι) : Prop :=
  s.recordings i = .notifying ∨ s.recordings i = .returned true

end Shared

/-- Nobody has recorded a name, and nobody has got one. -/
structure Open (s : Shared ι κ) : Prop where
  idle : ∀ i, s.recordings i = .idle
  empty : s.watch.latch = {}
  unanswered : ∀ k name, s.listeners k ≠ .returned name

/-- One call has filled the cell, and no other one ever will. Who gets a name gets that one, and who
has given up the cell is notified, or will be. -/
structure Decided (names : ι → String) (i : ι) (s : Shared ι κ) : Prop where
  wins : s.Wins i
  late : ∀ j, j ≠ i → s.recordings j = .idle ∨ s.recordings j = .returned false
  cell : s.watch.latch.name? = some (names i)
  answered : ∀ k name, s.listeners k = .returned name → name = names i
  notified : ∀ k, (s.listeners k).Unaware → s.recordings i = .notifying

theorem open_begin (now : Instant) : Open (Shared.begin now : Shared ι κ) where
  idle := fun _ => rfl
  empty := rfl
  unanswered := by
    intro k name h
    cases h

/-- A name in the cell stays there, and who comes later is told so. -/
theorem Watch.record_of_name {w : Watch} {name : String} (h : w.latch.name? = some name)
    (other : String) : w.record other = (false, w) := by
  rcases w with ⟨⟨first⟩, now⟩
  cases first with
  | none => cases h
  | some a => rfl

theorem Decided.unique {names : ι → String} {i j : ι} {s : Shared ι κ} (h : Decided names i s)
    (hj : s.Wins j) : j = i := by
  by_contra hne
  rcases h.late j hne with hlate | hlate <;> rcases hj with hj | hj <;> rw [hlate] at hj <;> cases hj

/-- When the winner has returned, whoever has given up the cell has been notified since. -/
theorem Decided.not_unaware {names : ι → String} {i : ι} {s : Shared ι κ} (h : Decided names i s)
    (hdone : s.recordings i = .returned true) (k : κ) : ¬ (s.listeners k).Unaware := by
  intro hunaware
  have hnotifying := h.notified k hunaware
  rw [hdone] at hnotifying
  cases hnotifying

/-- Who begins to wait when the cell is full gets the name at once. -/
theorem Decided.wait_eq {names : ι → String} {i : ι} {s : Shared ι κ} (h : Decided names i s)
    (limit : Nat) : s.watch.wait limit = (some (names i), s.watch) := by
  unfold Watch.wait
  rw [h.cell]

section

variable [DecidableEq ι] [DecidableEq κ] (names : ι → String)

/-- What one of the callers may do. -/
inductive Step : Shared ι κ → Shared ι κ → Prop
  /-- Time passes. -/
  | pass {s : Shared ι κ} (duration : Nat) :
      Step s { s with watch := s.watch.advance duration }
  /-- A name is recorded. Who comes too late returns at once. -/
  | record {s : Shared ι κ} {i : ι} (h : s.recordings i = .idle) :
      Step s
        { s with
          watch := (s.watch.record (names i)).2
          recordings := Function.update s.recordings i
            (if (s.watch.record (names i)).1 then .notifying else .returned false) }
  /-- Who has filled the cell notifies all who are registered. -/
  | notify {s : Shared ι κ} {i : ι} (h : s.recordings i = .notifying) :
      Step s
        { s with
          recordings := Function.update s.recordings i (.returned true)
          listeners := fun k => (s.listeners k).notify }
  /-- Somebody who waits goes on. -/
  | listen {s : Shared ι κ} {k : κ} {l : Listener}
      (h : (s.listeners k).next? s.watch.latch.name? = some l) :
      Step s { s with listeners := Function.update s.listeners k l }

abbrev Steps : Shared ι κ → Shared ι κ → Prop := Relation.ReflTransGen (Step names)

variable {names} {s s' : Shared ι κ} {i : ι}

/-- As long as nobody has recorded a name, only the first to do so changes anything. -/
theorem Open.step (h : Open s) (hstep : Step names s s') : Open s' ∨ ∃ i, Decided names i s' := by
  cases hstep with
  | pass duration => exact .inl ⟨h.idle, h.empty, h.unanswered⟩
  | @record i hi =>
    have hlatch : s.watch.latch = {} := h.empty
    have hfirst : (s.watch.record (names i)).1 = true := by
      rw [Watch.record, hlatch]
      rfl
    have hwinner : Function.update s.recordings i
        (if (s.watch.record (names i)).1 then .notifying else .returned false) i = .notifying := by
      rw [Function.update_self, if_pos hfirst]
    refine .inr ⟨i, .inl hwinner, ?_, ?_, ?_, fun _ _ => hwinner⟩
    · intro j hj
      refine .inl ?_
      show Function.update s.recordings i _ j = .idle
      rw [Function.update_of_ne hj]
      exact h.idle j
    · simp [Watch.record, hlatch, Latch.record, Latch.name?]
    · intro k name hk
      exact absurd hk (h.unanswered k name)
  | @notify i hi =>
    rw [h.idle i] at hi
    cases hi
  | @listen k l hl =>
    refine .inl ⟨h.idle, h.empty, ?_⟩
    have hcell : s.watch.latch.name? = none := by
      rw [h.empty]
      rfl
    rw [hcell] at hl
    intro k' name
    show Function.update s.listeners k l k' ≠ .returned name
    by_cases hk : k' = k
    · rw [hk, Function.update_self]
      exact Listener.ne_returned_of_next? hl
    · rw [Function.update_of_ne hk]
      exact h.unanswered k' name

/-- Who has filled the cell remains the only one. -/
theorem Decided.step (h : Decided names i s) (hstep : Step names s s') : Decided names i s' := by
  cases hstep with
  | pass duration => exact ⟨h.wins, h.late, h.cell, h.answered, h.notified⟩
  | @record j hj =>
    rw [Watch.record_of_name h.cell]
    have hne : i ≠ j := by
      rintro rfl
      rcases h.wins with hwins | hwins <;> rw [hj] at hwins <;> cases hwins
    -- only the call that comes too late has changed
    have hi : Function.update s.recordings j (.returned false) i = s.recordings i :=
      Function.update_of_ne hne _ _
    constructor
    · show Function.update s.recordings j (.returned false) i = _ ∨
        Function.update s.recordings j (.returned false) i = _
      rw [hi]
      exact h.wins
    · intro j' hj'
      by_cases heq : j' = j
      · rw [heq]
        exact .inr (Function.update_self ..)
      · show Function.update s.recordings j _ j' = _ ∨ Function.update s.recordings j _ j' = _
        rw [Function.update_of_ne heq]
        exact h.late j' hj'
    · exact h.cell
    · exact h.answered
    · intro k hk
      show Function.update s.recordings j (.returned false) i = _
      rw [hi]
      exact h.notified k hk
  | @notify j hj =>
    have hij : j = i := by
      by_contra hne
      rcases h.late j hne with hlate | hlate <;> rw [hj] at hlate <;> cases hlate
    subst hij
    constructor
    · exact .inr (Function.update_self ..)
    · intro j' hj'
      show Function.update s.recordings j _ j' = _ ∨ Function.update s.recordings j _ j' = _
      rw [Function.update_of_ne hj']
      exact h.late j' hj'
    · exact h.cell
    · intro k name hk
      exact h.answered k name (Listener.notify_eq_returned_iff.mp hk)
    · intro k hk
      exact absurd hk (Listener.not_unaware_notify _)
  | @listen k l hl =>
    rw [h.cell] at hl
    refine ⟨h.wins, h.late, h.cell, ?_, ?_⟩
    · intro k' name
      show Function.update s.listeners k l k' = _ → _
      by_cases hk : k' = k
      · rw [hk, Function.update_self]
        rintro rfl
        exact Listener.eq_of_next?_returned hl
      · rw [Function.update_of_ne hk]
        exact h.answered k' name
    · intro k'
      show (Function.update s.listeners k l k').Unaware → _
      by_cases hk : k' = k
      · rw [hk, Function.update_self]
        intro hl'
        exact h.notified k (Listener.unaware_of_next? hl hl')
      · rw [Function.update_of_ne hk]
        exact h.notified k'

theorem Decided.steps (h : Decided names i s) (hsteps : Steps names s s') :
    Decided names i s' := by
  induction hsteps with
  | refl => exact h
  | tail _ hstep ih => exact ih.step hstep

/-- Whatever the callers do, and in whatever order. -/
theorem Steps.open_or_decided {now : Instant} (h : Steps names (.begin now) s) :
    Open s ∨ ∃ i, Decided names i s := by
  induction h with
  | refl => exact .inl (open_begin now)
  | tail _ hstep ih =>
    rcases ih with hopen | ⟨i, hdecided⟩
    · exact hopen.step hstep
    · exact .inr ⟨i, hdecided.step hstep⟩

/-! ## After the first record -/

theorem Decided.latch_eq_of_step (h : Decided names i s) (hstep : Step names s s') :
    s'.watch.latch = s.watch.latch := by
  cases hstep with
  | pass duration => rfl
  | @record j hj =>
    show (s.watch.record (names j)).2.latch = s.watch.latch
    rw [Watch.record_of_name h.cell]
  | notify hj => rfl
  | listen hl => rfl

theorem Decided.latch_eq (h : Decided names i s) (hsteps : Steps names s s') :
    s'.watch.latch = s.watch.latch := by
  induction hsteps with
  | refl => rfl
  | tail hsteps hstep ih => rw [(h.steps hsteps).latch_eq_of_step hstep, ih]

variable (names) in
/-- Nobody who waits is held up, and nobody is thrown back. -/
structure Attended (s : Shared ι κ) : Prop where
  next : ∀ k, (∀ name, s.listeners k ≠ .returned name) →
    ∃ l, (s.listeners k).next? s.watch.latch.name? = some l ∧ l.todo < (s.listeners k).todo
  kept : ∀ s', Step names s s' → ∀ k, (s'.listeners k).todo ≤ (s.listeners k).todo

theorem Decided.attended (h : Decided names i s) (hdone : s.recordings i = .returned true) :
    Attended names s := by
  constructor
  · intro k hk
    rcases Listener.exists_next? (h.not_unaware hdone k) hk with ⟨l, hl⟩
    rw [h.cell]
    exact ⟨l, hl, Listener.todo_lt_of_next? hl⟩
  · intro s' hstep k'
    cases hstep with
    | pass duration => exact Nat.le_refl _
    | record hj => exact Nat.le_refl _
    | notify hj => exact Nat.le_of_eq (Listener.todo_notify _)
    | @listen k l hl =>
      show (Function.update s.listeners k l k').todo ≤ _
      by_cases hk : k' = k
      · rw [hk, Function.update_self]
        rw [h.cell] at hl
        exact Nat.le_of_lt (Listener.todo_lt_of_next? hl)
      · exact Nat.le_of_eq (congrArg Listener.todo (Function.update_of_ne hk _ _))

/-- At most one call returns that it was the first. As long as none has begun, the cell is empty and
nobody has got a name. As soon as one has begun, exactly one is or will be told that it was the
first: from then on the latch never changes, it holds the name of that call, and this is the name
that those who wait get. When that call has returned, nobody has given up the cell without being
notified since, and all who wait have at most four steps to take, which nobody can hinder. -/
theorem latch_loses_no_listener (names : ι → String) (now : Instant) {s : Shared ι κ}
    (h : Steps names (.begin now) s) :
    (∀ i j, s.recordings i = .returned true → s.recordings j = .returned true → i = j) ∧
    ((∀ i, s.recordings i = .idle) →
      s.watch.latch.name? = none ∧ ∀ k name, s.listeners k ≠ .returned name) ∧
    ((∃ j, s.recordings j ≠ .idle) → ∃! i, s.Wins i) ∧
    ∀ i, s.Wins i → ∀ s', Steps names s s' →
      Decided names i s' ∧ s'.watch.latch = s.watch.latch ∧
      (∀ limit, s'.watch.wait limit = (some (names i), s'.watch)) ∧
      (s'.recordings i = .returned true →
        (∀ k, ¬ (s'.listeners k).Unaware ∧ (s'.listeners k).todo ≤ 4) ∧ Attended names s') := by
  rcases h.open_or_decided with hopen | ⟨i, hdecided⟩
  · -- no call has begun, so none has returned and none wins
    have hnone : ∀ i, ¬ s.Wins i := by
      intro i hi
      unfold Shared.Wins at hi
      rw [hopen.idle i] at hi
      rcases hi with hi | hi <;> cases hi
    refine ⟨?_, ?_, ?_, ?_⟩
    · intro i j hi _
      exact absurd (.inr hi) (hnone i)
    · intro _
      rw [hopen.empty]
      exact ⟨rfl, hopen.unanswered⟩
    · rintro ⟨j, hj⟩
      exact absurd (hopen.idle j) hj
    · intro i hi
      exact absurd hi (hnone i)
  · refine ⟨?_, ?_, ?_, ?_⟩
    · intro j j' hj hj'
      rw [hdecided.unique (.inr hj), hdecided.unique (.inr hj')]
    · intro hidle
      have hwins := hdecided.wins
      unfold Shared.Wins at hwins
      rw [hidle i] at hwins
      rcases hwins with hwins | hwins <;> cases hwins
    · intro _
      exact ⟨i, hdecided.wins, fun j hj => hdecided.unique hj⟩
    · intro j hj s' hsteps
      rw [hdecided.unique hj]
      have hlater := hdecided.steps hsteps
      refine ⟨hlater, hdecided.latch_eq hsteps, hlater.wait_eq, ?_⟩
      intro hdone
      refine ⟨?_, hlater.attended hdone⟩
      intro k
      exact ⟨hlater.not_unaware hdone k, Listener.todo_le _⟩

/-- The name is recorded when somebody has just found the cell empty. It goes to sleep all the same,
and is woken. -/
theorem listener_woken_from_sleep :
    let names : Fin 2 → String := fun i => if i = 0 then "Taal" else "Mempool"
    ∃ s s' : Shared (Fin 2) (Fin 1), Steps names (.begin 0) s ∧ s.listeners 0 = .resigned false ∧
      s.Wins 1 ∧ Steps names s s' ∧ s'.listeners 0 = .asleep true ∧
      s'.recordings 0 = .returned false ∧ s'.recordings 1 = .returned true ∧
      s'.watch.wait 50 = (some "Mempool", s'.watch) ∧ ¬ (s'.listeners 0).Unaware ∧
      Attended names s' := by
  intro names
  let filled : Shared (Fin 2) (Fin 1) := {
    watch := ⟨⟨some ⟨0, "Mempool"⟩⟩, 0⟩
    recordings := Function.update (fun _ => .idle) 1 .notifying
    listeners := Function.update (Function.update (fun _ => .arriving) 0 (.registered false)) 0
      (.resigned false) }
  have hregistered : Steps names (.begin 0 : Shared (Fin 2) (Fin 1)) _ :=
    .single (.listen (k := 0) rfl)
  have hresigned := hregistered.tail (.listen (k := 0) rfl)
  have hrecorded := hresigned.tail (.record (i := 1) rfl)
  have hfilled : Steps names (.begin 0) filled := hrecorded
  have hasleep : Steps names filled _ := .single (.listen (k := 0) rfl)
  have hlate := hasleep.tail (.record (i := 0) rfl)
  have hnotified := hlate.tail (.notify (i := 1) rfl)
  rcases latch_loses_no_listener names 0 hfilled with ⟨-, -, -, hwinner⟩
  rcases hwinner 1 (.inl rfl) _ hnotified with ⟨-, -, hwait, hdone⟩
  rcases hdone rfl with ⟨haware, hattended⟩
  exact ⟨filled, _, hfilled, rfl, .inl rfl, hnotified, rfl, rfl, rfl, hwait 50, (haware 0).1,
    hattended⟩

end

end TxGateway.Latch
