import TxGateway.Proofs.Arrivals

namespace TxGateway.Scope

/-! # The first delivery

Who waits for the first delivery goes on at an instant that the tasks and the deadline settle, in
whatever order tasks are resumed that are due together.

* `first_cases` tells what there is then: an earliest arrival, or none that was in time.
* `first_le` and `le_first` are the bounds from which that instant can be known.
-/

variable {α : Type} {start deadline now : Instant} {policy : Stragglers} {tasks : List (Task α)}

/-- What the caller who waits for the first delivery gets, and when. -/
theorem first_cases (deadline : Instant) (policy : Stragglers) (h : WellTimed start tasks) :
    (∃ a ∈ arrivals start tasks, (∀ b ∈ arrivals start tasks, a.instant ≤ b.instant) ∧
      (a.instant = start ∨ a.instant < deadline) ∧
      (first start deadline policy tasks).result = some a ∧
      (first start deadline policy tasks).moment.instant = a.instant) ∨
    ((∀ a ∈ arrivals start tasks, start < a.instant ∧ deadline ≤ a.instant) ∧
      (first start deadline policy tasks).result = none ∧
      (first start deadline policy tasks).moment = givenUp start deadline tasks) := by
  rw [first_result, first_moment]
  cases hwinner : winner? start deadline tasks with
  | some a =>
    obtain ⟨hhead, hintime⟩ := Option.filter_eq_some_iff.mp hwinner
    exact .inl ⟨a, List.mem_of_mem_head? hhead, instant_le_of_head?_eq h hhead,
      by simpa using hintime, rfl, rfl⟩
  | none =>
    refine .inr ⟨fun b hb => ?_, rfl, rfl⟩
    have hstart := start_le_of_mem_arrivals h hb
    cases hhead : (arrivals start tasks).head? with
    | none =>
      rw [List.head?_eq_none_iff.mp hhead] at hb
      cases hb
    | some a =>
      -- the earliest arrival is too late, and so are the others
      have hle := instant_le_of_head?_eq h hhead b hb
      have hlate : ¬ (a.instant = start ∨ a.instant < deadline) := by
        intro hintime
        have hsome : winner? start deadline tasks = some a :=
          Option.filter_eq_some_iff.mpr ⟨hhead, by simpa using hintime⟩
        rw [hwinner] at hsome
        cases hsome
      have ha := start_le_of_mem_arrivals h (List.mem_of_mem_head? hhead)
      lia

theorem givenUp_le : (givenUp start deadline tasks).instant ≤ max start deadline := by
  unfold givenUp
  dsimp only
  split
  · show finish start tasks ≤ _
    lia
  · exact Nat.le_refl _

theorem start_le_first (h : WellTimed start tasks) :
    start ≤ (first start deadline policy tasks).moment.instant := by
  rcases first_cases deadline policy h with
    ⟨a, ha, -, -, -, hmoment⟩ | ⟨-, -, hmoment⟩
  · rw [hmoment]
    exact start_le_of_mem_arrivals h ha
  · rw [hmoment]
    unfold givenUp
    dsimp only
    split
    · exact le_finish _ _
    · exact Nat.le_max_left _ _

/-- The caller goes on no later than something has arrived, nothing more can, or the deadline has
come. -/
theorem first_le (h : WellTimed start tasks)
    (hnow : (∃ a ∈ arrivals start tasks, a.instant ≤ now) ∨
      arrivals start tasks = [] ∧ finish start tasks ≤ now ∨ max start deadline ≤ now) :
    (first start deadline policy tasks).moment.instant ≤ now := by
  rcases first_cases deadline policy h with
    ⟨a, ha, hleast, hintime, -, hmoment⟩ | ⟨hlate, -, hmoment⟩
  · rw [hmoment]
    rcases hnow with ⟨b, hb, hbnow⟩ | ⟨hnone, -⟩ | hdeadline
    · exact (hleast b hb).trans hbnow
    · rw [hnone] at ha
      cases ha
    · lia
  · rw [hmoment]
    rcases hnow with ⟨b, hb, hbnow⟩ | ⟨-, hfinish⟩ | hdeadline
    · have hb := hlate b hb
      exact givenUp_le.trans (by lia)
    · unfold givenUp
      dsimp only
      split
      · exact hfinish
      · show max start deadline ≤ now
        have := le_finish start tasks
        lia
    · exact givenUp_le.trans hdeadline

/-- The caller goes on no earlier than something arrives, some task ends or the deadline comes. -/
theorem le_first (h : WellTimed start tasks) (harrivals : ∀ a ∈ arrivals start tasks, now ≤ a.instant)
    (htask : ∃ t ∈ tasks, now ≤ t.finish) (hdeadline : now ≤ max start deadline) :
    now ≤ (first start deadline policy tasks).moment.instant := by
  rcases first_cases deadline policy h with
    ⟨a, ha, -, -, -, hmoment⟩ | ⟨-, -, hmoment⟩
  · rw [hmoment]
    exact harrivals a ha
  · rw [hmoment]
    obtain ⟨t, ht, hnow⟩ := htask
    unfold givenUp
    dsimp only
    split
    · exact hnow.trans (le_finish_of_mem ht)
    · exact hdeadline

end TxGateway.Scope
