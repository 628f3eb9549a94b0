import TxGateway.Proofs.Scope.Queue

namespace TxGateway.Scope

/-! # Every scope comes to its end

A scope can only do so much before time goes on, and it never gets stuck: as long as the caller has
not returned, something can happen at once, or some task is not due yet.

* `Flow.rank` bounds what may still happen, and `Move.rank_lt` says that every move uses some of it.
* `Quiet.ended_or_working` and `Quiet.listening` say what a scope looks like when nothing can happen.
-/

variable {α : Type} {wait : Wait} {tasks : List (Task α)} {f f' : Flow α} {m m' : Member α}
  {e : Effect α}

/-! ## What is still to be done -/

/-- How many steps a task has still to make at most. To deliver counts twice, because what has been
delivered has still to be taken out of the queue. -/
def Phase.todo : Phase α → Nat
  | .working => 5
  | .delivering _ => 4
  | .spent => 2
  | .leaving => 1
  | .ended => 0

/-- How many steps the caller has still to make at most, with those of tasks that it has still to
start, but without those that empty the queue. -/
def Caller.todo : Caller α → Nat
  | .starting rest => 3 + 6 * rest.length
  | .listening _ => 2
  | .settled _ => 1
  | .returned _ _ => 0

/-- How much may still happen. -/
def Flow.rank (f : Flow α) : Nat :=
  f.caller.todo + f.queue.length + (f.members.map fun m => m.phase.todo).sum

theorem Turn.todo_lt (h : Turn wait f m m' e) :
    m'.phase.todo + e.put?.toList.length < m.phase.todo := by
  cases h with
  | work hphase hdue =>
    rw [hphase]
    cases hvalue : m.task.value.join <;> simp [Phase.after, Phase.todo, Effect.put?]
  | deliver hphase hopen hroom =>
    rw [hphase]
    simp [Phase.todo, Effect.put?]
  | drop hbusy hclosed hwait =>
    cases hphase : m.phase <;> simp [hphase, Phase.isBusy] at hbusy <;>
      simp [Phase.todo, Effect.put?]
  | release hphase | leave hphase =>
    rw [hphase]
    simp [Phase.todo, Effect.put?]

theorem Caller.todo_took_le (wait : Wait) (taken : List (Arrival α)) :
    (took wait taken).todo ≤ 2 := by
  cases wait <;> simp [took, todo]

/-- There is no way to go on for ever while time stands still. -/
theorem Move.rank_lt (h : Move wait f f') : f'.rank < f.rank := by
  unfold Flow.rank
  cases h with
  | start hcaller =>
    rw [hcaller]
    simp only [List.map_append, List.sum_append, List.map_cons, List.map_nil, List.sum_cons,
      List.sum_nil, Caller.todo, Phase.todo, List.length_cons]
    omega
  | listen hcaller =>
    rw [hcaller]
    simp [Caller.todo]
  | @take a queue taken hcaller hqueue =>
    have hle := Caller.todo_took_le wait (taken ++ [a])
    have hlisten : (Caller.listening taken).todo = 2 := rfl
    rw [hcaller, hqueue, List.length_cons]
    dsimp only
    omega
  | settle hcaller hqueue hover =>
    rw [hcaller]
    simp [Caller.todo]
  | close hcaller hjoined =>
    rw [hcaller]
    simp only [Caller.todo, List.length_nil]
    omega
  | @turn before after m m' e hmembers hturn =>
    have hlt := hturn.todo_lt
    rw [hmembers]
    simp only [Flow.turned, List.map_append, List.sum_append, List.map_cons, List.sum_cons,
      List.length_append]
    omega

/-! ## When nothing can happen -/

/-- Nothing can happen before time goes on. -/
def Quiet (wait : Wait) (f : Flow α) : Prop := ∀ f', ¬ Move wait f f'

theorem Quiet.not_turn (hquiet : Quiet wait f) (hm : m ∈ f.members) : ¬ Turn wait f m m' e := by
  intro hturn
  rcases List.append_of_mem hm with ⟨before, after, hmembers⟩
  exact hquiet _ (.turn hmembers hturn)

/-- No task has to wait for anything but the end of its own work. -/
theorem Quiet.ended_or_working (hquiet : Quiet wait f) (h : Sound wait tasks f)
    (hm : m ∈ f.members) : m.phase = .ended ∨ m.phase = .working ∧ f.now < m.task.finish := by
  cases hphase : m.phase with
  | working =>
    refine .inr ⟨rfl, ?_⟩
    by_contra hdue
    exact hquiet.not_turn hm (.work hphase (Nat.le_of_not_lt hdue))
  | delivering value =>
    have hbusy : m.phase.isBusy = true := by rw [hphase]; rfl
    by_cases hopen : f.caller.isOpen = true
    · exact absurd (.deliver hphase hopen (h.length_queue_lt hm hbusy)) (hquiet.not_turn hm)
    · refine absurd (.drop hbusy (by simpa using hopen) ?_) (hquiet.not_turn hm)
      intro hworking
      rw [hphase] at hworking
      cases hworking
  | spent => exact absurd (.release hphase) (hquiet.not_turn hm)
  | leaving => exact absurd (.leave hphase) (hquiet.not_turn hm)
  | ended => exact .inl rfl

/-- A caller who has to wait listens, and has taken all that is there. Somebody may still deliver
something, and the deadline has not come. -/
theorem Quiet.listening (hquiet : Quiet wait f) (h : Sound wait tasks f)
    (hopen : f.caller.isOpen = true) :
    f.caller = .listening f.sent ∧ f.queue = [] ∧
      (∃ m ∈ f.members, m.phase = .working ∧ f.now < m.task.finish) ∧
      ∀ d ∈ wait.deadline?, f.now < d := by
  cases hcaller : f.caller with
  | starting rest =>
    cases rest with
    | nil => exact absurd (.listen hcaller) (hquiet _)
    | cons t rest => exact absurd (.start hcaller) (hquiet _)
  | listening taken =>
    cases hqueue : f.queue with
    | cons a queue => exact absurd (.take hcaller hqueue) (hquiet _)
    | nil =>
      have hwaits : ¬ (f.handles = 0 ∨ ∃ d ∈ wait.deadline?, d ≤ f.now) := by
        intro hover
        exact hquiet _ (.settle hcaller hqueue hover)
      rw [not_or] at hwaits
      have hsent := (h.placed.of_listening hcaller).1
      rw [hqueue, List.append_nil] at hsent
      refine ⟨by rw [hsent], rfl, ?_, ?_⟩
      · -- whoever has a handle has not ended
        have hcount := h.staffed.handles_eq
        have hnone : (Caller.listening taken).handles = 0 := rfl
        rw [hcaller, hnone] at hcount
        have hpos : 0 < f.members.countP fun m => m.phase.holds := by omega
        rcases List.countP_pos_iff.mp hpos with ⟨m, hm, hholds⟩
        rcases hquiet.ended_or_working h hm with hended | hworking
        · rw [hended] at hholds
          cases hholds
        · exact ⟨m, hm, hworking⟩
      · intro d hd
        by_contra hover
        exact hwaits.2 ⟨d, hd, Nat.le_of_not_lt hover⟩
  | settled taken =>
    refine absurd (.close hcaller ?_) (hquiet _)
    intro hwait m hm
    rcases hquiet.ended_or_working h hm with hended | ⟨hworking, -⟩
    · exact hended
    · -- the caller has not stopped listening before everybody had let go of its handle
      have hidle := h.staffed.idle ((h.placed.of_settled hcaller).2.2 hwait) m hm
      rw [hworking] at hidle
      cases hidle
  | returned instant taken =>
    rw [hcaller] at hopen
    cases hopen

end TxGateway.Scope
