import TxGateway.Schedule.Activity

namespace TxGateway

/-! # What activities do

What holds of all activities is shown for a single call and passed on from two activities to one
after the other, so it needs no look into what an activity is made of.

* `Gapless`: a task makes one call after the other without a gap, and ends with the last.
* `Activity.Makes`: an activity has no gap, and all calls that it may make are of some kind.
-/

/-- Calls that follow each other without a gap from one instant to another. -/
def Gapless : Instant → List CallTrace → Instant → Prop
  | now, [], finish => now = finish
  | now, c :: rest, finish => c.began = now ∧ now ≤ c.ended ∧ Gapless c.ended rest finish

namespace Gapless

variable {now mid finish : Instant} {first second : List CallTrace}

theorem append (h₁ : Gapless now first mid) (h₂ : Gapless mid second finish) :
    Gapless now (first ++ second) finish := by
  induction first generalizing now with
  | nil =>
    have hnow : now = mid := h₁
    rw [hnow]
    exact h₂
  | cons c rest ih =>
    obtain ⟨hbegan, hended, hrest⟩ := h₁
    exact ⟨hbegan, hended, ih hrest⟩

theorem le (h : Gapless now first finish) : now ≤ finish := by
  induction first generalizing now with
  | nil => exact Nat.le_of_eq h
  | cons c rest ih => exact Nat.le_trans h.2.1 (ih h.2.2)

theorem le_began (h : Gapless now first finish) {c : CallTrace} (hc : c ∈ first) :
    now ≤ c.began := by
  induction first generalizing now with
  | nil => cases hc
  | cons d rest ih =>
    rcases List.mem_cons.mp hc with rfl | hc
    · exact Nat.le_of_eq h.1.symm
    · exact Nat.le_trans h.2.1 (ih h.2.2 hc)

/-- Each call is over before the next one begins, so all are over at the end. -/
theorem ended_le (h : Gapless now first finish) {c : CallTrace} (hc : c ∈ first) :
    c.began ≤ c.ended ∧ c.ended ≤ finish := by
  induction first generalizing now with
  | nil => cases hc
  | cons d rest ih =>
    rcases h with ⟨hbegan, hended, hrest⟩
    rcases List.mem_cons.mp hc with rfl | hc
    · rw [hbegan]
      exact ⟨hended, hrest.le⟩
    · exact ih hrest hc

/-- The instants at which a gapless task goes on after a wait. -/
theorem le_of_mem_wakes (h : Gapless now first finish) {t : Instant}
    (ht : t ∈ (first.filter CallTrace.waits).map CallTrace.ended) : now ≤ t := by
  induction first generalizing now with
  | nil => simp at ht
  | cons c rest ih =>
    obtain ⟨hbegan, hended, hrest⟩ := h
    by_cases hwaits : c.waits
    · rw [List.filter_cons_of_pos hwaits, List.map_cons, List.mem_cons] at ht
      rcases ht with rfl | ht
      · exact hended
      · exact Nat.le_trans hended (ih hrest ht)
    · rw [List.filter_cons_of_neg hwaits] at ht
      exact Nat.le_trans hended (ih hrest ht)

theorem wakes_sorted (h : Gapless now first finish) :
    ((first.filter CallTrace.waits).map CallTrace.ended).Pairwise (· ≤ ·) := by
  induction first generalizing now with
  | nil => simp
  | cons c rest ih =>
    obtain ⟨-, -, hrest⟩ := h
    by_cases hwaits : c.waits
    · rw [List.filter_cons_of_pos hwaits, List.map_cons, List.pairwise_cons]
      exact ⟨fun t ht => hrest.le_of_mem_wakes ht, ih hrest⟩
    · rw [List.filter_cons_of_neg hwaits]
      exact ih hrest

/-- A gapless task ends with its last wait, or at once if it never waits. -/
theorem getLastD_wakes (h : Gapless now first finish) :
    ((first.filter CallTrace.waits).map CallTrace.ended).getLastD now = finish := by
  induction first generalizing now with
  | nil => exact h
  | cons c rest ih =>
    obtain ⟨hbegan, hended, hrest⟩ := h
    by_cases hwaits : c.waits
    · rw [List.filter_cons_of_pos hwaits, List.map_cons, List.getLastD_cons]
      exact ih hrest
    · -- a call that does not wait leaves the task at the instant where it was
      have hnow : c.ended = now := by
        simp only [CallTrace.waits, decide_eq_true_eq] at hwaits
        lia
      rw [List.filter_cons_of_neg hwaits]
      rw [hnow] at hrest
      exact ih hrest

end Gapless

/-- The course of a task, with what it ends with in another form. -/
def Timeline.map {α β : Type} (f : α → β) (t : Timeline α) : Timeline β :=
  { t with value := t.value.map f }

namespace Activity

variable {α β : Type} {x : Activity α} {next : α → Activity β} {w : World} {now : Instant}

/-! ## One activity after another -/

theorem bind_of_none (h : (x w now).value = none) :
    (x >>= next) w now = ⟨(x w now).calls, (x w now).finish, none⟩ := by
  show Activity.bind x next w now = _
  simp only [Activity.bind, h]

theorem bind_of_some {a : α} (h : (x w now).value = some a) :
    (x >>= next) w now =
      ⟨(x w now).calls ++ (next a w (x w now).finish).calls,
        (next a w (x w now).finish).finish, (next a w (x w now).finish).value⟩ := by
  show Activity.bind x next w now = _
  simp only [Activity.bind, h]

/-- To look at the clock takes no time. -/
theorem bind_now {next : Instant → Activity β} : (Activity.now >>= next) w now = next now w now :=
  bind_of_some rfl

/-- What an activity ends with may be read in another form. -/
theorem bind_pure_apply (f : α → β) :
    (x >>= fun a => pure (f a)) w now =
      ⟨(x w now).calls, (x w now).finish, (x w now).value.map f⟩ := by
  cases h : (x w now).value with
  | none => exact bind_of_none h
  | some a =>
    rw [bind_of_some h]
    simp only [pure, Activity.pure, List.append_nil, Option.map_some]

/-! ## Kinds of calls -/

/-- Wherever and whenever it starts, the activity has no gap, and its calls satisfy `P`. -/
def Makes (P : Call → Prop) (x : Activity α) : Prop :=
  ∀ w now, Gapless now (x w now).calls (x w now).finish ∧ ∀ t ∈ (x w now).calls, P t.call

variable {P Q : Call → Prop}

theorem Makes.gapless (h : Makes P x) (w : World) (now : Instant) :
    Gapless now (x w now).calls (x w now).finish :=
  (h w now).1

theorem Makes.call (h : Makes P x) {t : CallTrace} (ht : t ∈ (x w now).calls) : P t.call :=
  (h w now).2 t ht

theorem Makes.mono (h : Makes P x) (hPQ : ∀ c, P c → Q c) : Makes Q x :=
  fun w now => ⟨h.gapless w now, fun _ ht => hPQ _ (h.call ht)⟩

theorem makes_pure (a : α) : Makes P (pure a : Activity α) :=
  fun _ _ => ⟨rfl, fun _ ht => nomatch ht⟩

theorem makes_now : Makes P Activity.now := fun _ _ => ⟨rfl, fun _ ht => nomatch ht⟩

theorem Makes.bind (hx : Makes P x) (hnext : ∀ a, Makes P (next a)) : Makes P (x >>= next) := by
  intro w now
  cases h : (x w now).value with
  | none =>
    -- a crash ends the whole activity, and what was to come next makes no calls
    rw [bind_of_none h]
    exact hx w now
  | some a =>
    rw [bind_of_some h]
    refine ⟨(hx.gapless w now).append ((hnext a).gapless w _), ?_⟩
    intro t ht
    rcases List.mem_append.mp ht with ht | ht
    · exact hx.call ht
    · exact (hnext a).call ht

end Activity

end TxGateway
