import Mathlib.Data.List.Perm.Basic
import Mathlib.Order.MinMax
import TxGateway.Proofs.Activity
import TxGateway.Schedule.Scope

namespace TxGateway

/-! # What arrives, and when

The event loop resumes tasks in an order of its own. Whatever that order is, the tasks deliver what
they end with at the instant at which they end, each once, and the deliveries come in order of time.

* `EventLoop.run_perm` and `EventLoop.run_sorted` say so of a queue of waiting tasks.
* `Scope.arrivals_perm` and `Scope.arrivals_sorted` say so of the tasks of a scope.
* `Scope.exists_order` puts the tasks themselves into the order of arrival.
* `Scope.arrivals_map` says that what is delivered has no part in when it arrives.
-/

namespace Waiting

variable {α : Type}

/-- When the task ends. -/
def ends (t : Waiting α) : Instant := t.later.getLastD t.due

/-- What the task delivers when it ends. -/
def arrival? (t : Waiting α) : Option (Arrival α) := t.delivers.map fun value => ⟨t.ends, value⟩

/-- No wait of the task ends before an earlier one. -/
def Ordered (t : Waiting α) : Prop := (t.due :: t.later).Pairwise (· ≤ ·)

theorem Ordered.due_le_ends {t : Waiting α} (h : t.Ordered) : t.due ≤ t.ends := by
  have hlast : t.ends ∈ t.due :: t.later := by
    unfold ends
    cases hl : t.later with
    | nil => simp
    | cons u later =>
      rw [List.getLastD_eq_getLast?, List.getLast?_eq_some_getLast (List.cons_ne_nil _ _)]
      exact List.mem_cons_of_mem _ (List.getLast_mem _)
  rcases List.mem_cons.mp hlast with heq | hmem
  · exact Nat.le_of_eq heq.symm
  · exact (List.pairwise_cons.mp h).1 _ hmem

end Waiting

namespace EventLoop

variable {α : Type} {queue others : List (Waiting α)} {t : Waiting α}

/-! ## The next task -/

theorem next?_eq_none_iff : next? queue = none ↔ queue = [] := by
  cases queue with
  | nil => simp [next?]
  | cons t rest =>
    simp only [next?]
    split
    · simp
    · split <;> simp

theorem next?_perm (h : next? queue = some (t, others)) : queue.Perm (t :: others) := by
  induction queue generalizing t others with
  | nil => simp [next?] at h
  | cons u rest ih =>
    simp only [next?] at h
    split at h
    · next hnone =>
      cases h
      rw [next?_eq_none_iff.mp hnone]
    · next v vs hv =>
      split at h
      · cases h
        exact .refl _
      · cases h
        exact ((ih hv).cons u).trans (.swap t u vs)

/-- The next task is one whose wait ends first. -/
theorem next?_due_le (h : next? queue = some (t, others)) : ∀ u ∈ queue, t.due ≤ u.due := by
  induction queue generalizing t others with
  | nil => simp [next?] at h
  | cons v rest ih =>
    simp only [next?] at h
    split at h
    · next hnone =>
      cases h
      simp [next?_eq_none_iff.mp hnone]
    · next u us hu =>
      have hrest := ih hu
      split at h
      · next hle =>
        cases h
        intro x hx
        rcases List.mem_cons.mp hx with rfl | hx
        · exact Nat.le_refl _
        · exact Nat.le_trans hle (hrest x hx)
      · next hlt =>
        cases h
        intro x hx
        rcases List.mem_cons.mp hx with rfl | hx
        · exact Nat.le_of_not_le hlt
        · exact hrest x hx

/-! ## Runs -/

theorem run_of_last (hnext : next? queue = some (t, others)) (hlater : t.later = []) :
    run queue = arrival t.due t.delivers ++ run others := by
  rw [run]
  split
  · next hnone => simp [hnext] at hnone
  · next u us hsome =>
    rw [hnext] at hsome
    cases hsome
    split
    · rfl
    · next hcons => simp [hlater] at hcons

theorem run_of_later {due : Instant} {later : List Instant}
    (hnext : next? queue = some (t, others)) (hlater : t.later = due :: later) :
    run queue = run (others ++ [{ t with due, later }]) := by
  rw [run]
  split
  · next hnone => simp [hnext] at hnone
  · next u us hsome =>
    rw [hnext] at hsome
    cases hsome
    split
    · next hnil => simp [hlater] at hnil
    · next due' later' hcons =>
      rw [hlater] at hcons
      cases hcons
      rfl

/-- Everything that is delivered comes from a task, at its end, and no task is left out. -/
theorem run_perm (queue : List (Waiting α)) :
    (run queue).Perm (queue.filterMap Waiting.arrival?) := by
  fun_induction run queue with
  | case1 queue hnone =>
    rw [next?_eq_none_iff.mp hnone]
    simp
  | case2 queue t others hnext hlater ih =>
    have harrival : arrival t.due t.delivers = t.arrival?.toList := by
      simp [arrival, Waiting.arrival?, Waiting.ends, hlater]
    have hperm := (next?_perm hnext).filterMap Waiting.arrival?
    rw [harrival]
    cases ha : t.arrival? with
    | none =>
      rw [List.filterMap_cons_none ha] at hperm
      simpa using ih.trans hperm.symm
    | some a =>
      rw [List.filterMap_cons_some ha] at hperm
      simpa using (ih.cons a).trans hperm.symm
  | case3 queue t others hnext due later hlater ih =>
    -- the task goes back into the queue and still ends at the same instant
    have hends : Waiting.arrival? { t with due, later } = t.arrival? := by
      simp only [Waiting.arrival?, Waiting.ends, hlater, List.getLastD_cons]
    have hperm := (next?_perm hnext).filterMap Waiting.arrival?
    refine ih.trans (.trans ?_ hperm.symm)
    rw [List.filterMap_append]
    refine List.perm_append_comm.trans ?_
    rw [← List.filterMap_append, List.singleton_append]
    rw [List.filterMap_cons, List.filterMap_cons, hends]

theorem le_instant_of_mem_run (hordered : ∀ t ∈ queue, t.Ordered) {now : Instant}
    (hnow : ∀ t ∈ queue, now ≤ t.due) : ∀ a ∈ run queue, now ≤ a.instant := by
  intro a ha
  obtain ⟨t, ht, hta⟩ := List.mem_filterMap.mp ((run_perm queue).mem_iff.mp ha)
  obtain ⟨value, -, rfl⟩ := Option.map_eq_some_iff.mp hta
  exact Nat.le_trans (hnow t ht) (hordered t ht).due_le_ends

/-- Deliveries come in order of time. -/
theorem run_sorted (queue : List (Waiting α)) (hordered : ∀ t ∈ queue, t.Ordered) :
    (run queue).Pairwise fun a b => a.instant ≤ b.instant := by
  fun_induction run queue with
  | case1 queue hnone => simp
  | case2 queue t others hnext hlater ih =>
    have hsub : ∀ u ∈ others, u ∈ queue := fun u hu =>
      (next?_perm hnext).mem_iff.mpr (List.mem_cons_of_mem _ hu)
    have hothers : ∀ u ∈ others, u.Ordered := fun u hu => hordered u (hsub u hu)
    refine List.pairwise_append.mpr ⟨?_, ih hothers, ?_⟩
    · cases t.delivers <;> simp [arrival]
    · intro a ha b hb
      have hat : a.instant = t.due := by
        cases h : t.delivers with
        | none => simp [arrival, h] at ha
        | some value =>
          simp only [arrival, h, Option.map_some, Option.toList_some, List.mem_singleton] at ha
          rw [ha]
      rw [hat]
      exact le_instant_of_mem_run hothers (fun u hu => next?_due_le hnext u (hsub u hu)) b hb
  | case3 queue t others hnext due later hlater ih =>
    apply ih
    intro u hu
    rcases List.mem_append.mp hu with hu | hu
    · exact hordered u ((next?_perm hnext).mem_iff.mpr (List.mem_cons_of_mem _ hu))
    · have ht := hordered t ((next?_perm hnext).mem_iff.mpr List.mem_cons_self)
      rw [Waiting.Ordered, hlater, List.pairwise_cons] at ht
      rw [List.mem_singleton.mp hu]
      exact ht.2

end EventLoop

/-! ## Scopes -/

namespace Scope

variable {α : Type} {start : Instant} {tasks : List (Task α)}

/-- The tasks of a scope, which start together and have no gaps. -/
def WellTimed (start : Instant) (tasks : List (Task α)) : Prop :=
  ∀ t ∈ tasks, Gapless start t.calls t.finish

/-- What a task delivers when it ends. -/
def delivery? (t : Task α) : Option (Arrival α) :=
  t.value.join.map fun value => ⟨t.finish, value⟩

theorem WellTimed.tail {t : Task α} (h : WellTimed start (t :: tasks)) : WellTimed start tasks :=
  fun u hu => h u (List.mem_cons_of_mem _ hu)

/-- A task that never waits delivers at the start, and any other one from the queue. -/
theorem atStart_append_enqueued {t : Task α} (h : Gapless start t.calls t.finish) :
    atStart start t ++ (enqueued t).filterMap Waiting.arrival? = (delivery? t).toList := by
  have hlast : t.wakes.getLastD start = t.finish := h.getLastD_wakes
  unfold atStart enqueued
  cases hw : t.wakes with
  | nil =>
    rw [hw] at hlast
    have hstart : start = t.finish := hlast
    simp [EventLoop.arrival, delivery?, hstart]
  | cons due later =>
    rw [hw, List.getLastD_cons] at hlast
    have harrival : Waiting.arrival? ⟨due, later, t.value.join⟩ = delivery? t := by
      simp only [Waiting.arrival?, Waiting.ends, hlast, delivery?]
    cases hd : delivery? t <;> simp [harrival, hd]

/-- What arrives is what the tasks that are not lost deliver at their ends. -/
theorem arrivals_perm (h : WellTimed start tasks) :
    (arrivals start tasks).Perm (tasks.filterMap delivery?) := by
  have hrun : (arrivals start tasks).Perm (tasks.flatMap (atStart start) ++
      (tasks.flatMap enqueued).filterMap Waiting.arrival?) :=
    (EventLoop.run_perm _).append_left _
  refine hrun.trans ?_
  clear hrun
  -- by induction on the tasks, since each one delivers in one of the two parts
  induction tasks with
  | nil => simp
  | cons t rest ih =>
    have ht := atStart_append_enqueued (h t List.mem_cons_self)
    have hsplit : (t :: rest).filterMap delivery? =
        (delivery? t).toList ++ rest.filterMap delivery? := by
      cases hd : delivery? t <;> simp [hd]
    rw [hsplit, ← ht]
    simp only [List.flatMap_cons, List.filterMap_append, List.append_assoc]
    refine List.Perm.append_left _ ?_
    refine .trans ?_ (List.Perm.append_left _ (ih h.tail))
    simp only [← List.append_assoc]
    exact List.Perm.append_right _ List.perm_append_comm

theorem arrivals_values_perm (h : WellTimed start tasks) :
    ((arrivals start tasks).map Arrival.value).Perm (tasks.filterMap fun t => t.value.join) := by
  have hvalue : tasks.filterMap (fun t => t.value.join) =
      (tasks.filterMap delivery?).map Arrival.value := by
    rw [List.map_filterMap]
    congr 1
    funext t
    simp [delivery?, Function.comp_def]
  rw [hvalue]
  exact (arrivals_perm h).map _

theorem mem_arrivals (h : WellTimed start tasks) {a : Arrival α} :
    a ∈ arrivals start tasks ↔ ∃ t ∈ tasks, t.value.join = some a.value ∧ t.finish = a.instant := by
  rw [(arrivals_perm h).mem_iff, List.mem_filterMap]
  constructor
  · rintro ⟨t, ht, hd⟩
    obtain ⟨value, hv, rfl⟩ := Option.map_eq_some_iff.mp hd
    exact ⟨t, ht, hv, rfl⟩
  · rintro ⟨t, ht, hv, hfinish⟩
    refine ⟨t, ht, ?_⟩
    simp [delivery?, hv, hfinish]

theorem ordered_of_mem_enqueued (h : WellTimed start tasks) :
    ∀ u ∈ tasks.flatMap enqueued, start ≤ u.due ∧ u.Ordered := by
  intro u hu
  obtain ⟨t, ht, hu⟩ := List.mem_flatMap.mp hu
  have hle := fun {i} => (h t ht).le_of_mem_wakes (t := i)
  have hsorted : t.wakes.Pairwise (· ≤ ·) := (h t ht).wakes_sorted
  unfold enqueued at hu
  cases hw : t.wakes with
  | nil => simp [hw] at hu
  | cons due later =>
    simp only [hw, List.mem_singleton] at hu
    subst hu
    refine ⟨hle ?_, ?_⟩
    · show due ∈ t.wakes
      simp [hw]
    · rw [hw] at hsorted
      exact hsorted

theorem arrivals_sorted (h : WellTimed start tasks) :
    (arrivals start tasks).Pairwise fun a b => a.instant ≤ b.instant := by
  have hqueue := ordered_of_mem_enqueued h
  have hatStart : ∀ a ∈ tasks.flatMap (atStart start), a.instant = start := by
    intro a ha
    obtain ⟨t, -, ha⟩ := List.mem_flatMap.mp ha
    unfold atStart at ha
    split at ha
    · simp only [EventLoop.arrival, Option.mem_toList, Option.map_eq_some_iff] at ha
      obtain ⟨value, -, rfl⟩ := ha
      rfl
    · cases ha
  -- what is delivered at the start comes before everything that waits
  refine List.pairwise_append.mpr ⟨?_, ?_, ?_⟩
  · refine List.pairwise_iff_forall_sublist.mpr ?_
    intro a b hab
    rw [hatStart a (hab.subset (by simp)), hatStart b (hab.subset (by simp))]
  · exact EventLoop.run_sorted _ fun u hu => (hqueue u hu).2
  · intro a ha b hb
    rw [hatStart a ha]
    exact EventLoop.le_instant_of_mem_run (fun u hu => (hqueue u hu).2)
      (fun u hu => (hqueue u hu).1) b hb

theorem start_le_of_mem_arrivals (h : WellTimed start tasks) {a : Arrival α}
    (ha : a ∈ arrivals start tasks) : start ≤ a.instant := by
  obtain ⟨t, ht, -, hfinish⟩ := (mem_arrivals h).mp ha
  rw [← hfinish]
  exact (h t ht).le

/-- Nothing arrives before the first arrival. -/
theorem instant_le_of_head?_eq (h : WellTimed start tasks) {a : Arrival α}
    (ha : (arrivals start tasks).head? = some a) : ∀ b ∈ arrivals start tasks,
      a.instant ≤ b.instant := by
  obtain ⟨rest, hrest⟩ := List.head?_eq_some_iff.mp ha
  have hsorted := arrivals_sorted h
  rw [hrest] at hsorted ⊢
  intro b hb
  rcases List.mem_cons.mp hb with rfl | hb
  · exact Nat.le_refl _
  · exact (List.pairwise_cons.mp hsorted).1 b hb

/-! ## An order of the tasks -/

/-- What comes out of a list in another order comes out of that list in some order. -/
theorem exists_perm_filterMap_eq {β γ : Type} {f : β → Option γ} {bs : List β} {cs : List γ}
    (h : cs.Perm (bs.filterMap f)) : ∃ order : List β, order.Perm bs ∧ order.filterMap f = cs := by
  -- by what the permutation is made of; the list that it comes out of stays open
  generalize hds : bs.filterMap f = ds at h
  replace h := h.symm
  induction h generalizing bs with
  | nil => exact ⟨bs, .refl _, hds⟩
  | cons c _ ih =>
    obtain ⟨front, b, rest, rfl, hfront, hb, hrest⟩ := List.filterMap_eq_cons_iff.mp hds
    obtain ⟨order, horder, hcs⟩ := ih hrest
    refine ⟨front ++ b :: order, (horder.cons b).append_left front, ?_⟩
    rw [List.filterMap_append, List.filterMap_eq_nil_iff.mpr hfront, List.filterMap_cons_some hb,
      hcs, List.nil_append]
  | swap c d es =>
    obtain ⟨front, b, rest, rfl, hfront, hb, hrest⟩ := List.filterMap_eq_cons_iff.mp hds
    obtain ⟨middle, b', rest', rfl, hmiddle, hb', hrest'⟩ := List.filterMap_eq_cons_iff.mp hrest
    refine ⟨front ++ middle ++ b' :: b :: rest', ?_, ?_⟩
    · rw [List.append_assoc]
      refine List.Perm.append_left front ?_
      exact (((List.Perm.swap b b' rest').append_left middle).trans List.perm_middle)
    · simp [List.filterMap_append, List.filterMap_eq_nil_iff.mpr hfront,
        List.filterMap_eq_nil_iff.mpr hmiddle, hb, hb', hrest']
  | trans _ _ ih ih' =>
    obtain ⟨order, horder, hcs⟩ := ih hds
    obtain ⟨order', horder', hcs'⟩ := ih' hcs
    exact ⟨order', horder'.trans horder, hcs'⟩

/-- What comes out of a list in the order of a key comes out as before when the list is sorted by
that key. -/
theorem filterMap_mergeSort_eq {β γ : Type} {f : β → Option γ} {key : β → Nat} {order : List β}
    (h : (order.filter fun b => (f b).isSome).Pairwise fun a b => key a ≤ key b) :
    (order.mergeSort fun a b => key a ≤ key b).filterMap f = order.filterMap f := by
  -- what counts is already sorted, so it stands in the sorted list as it is
  have hsublist : (order.filter fun b => (f b).isSome).Sublist
      (order.mergeSort fun a b => key a ≤ key b) :=
    List.sublist_mergeSort (by simp; lia) (by simp; lia) (by simpa using h) List.filter_sublist
  have hfilter : (order.filter fun b => (f b).isSome).filterMap f = order.filterMap f := by
    rw [List.filterMap_filter]
    congr 1
    funext b
    cases f b <;> rfl
  rw [← hfilter]
  refine ((hsublist.filterMap f).eq_of_length ?_).symm
  rw [hfilter]
  exact ((List.mergeSort_perm order _).filterMap f).length_eq.symm

theorem instant_of_delivery?_eq {t : Task α} {a : Arrival α} (h : delivery? t = some a) :
    a.instant = t.finish := by
  obtain ⟨value, -, rfl⟩ := Option.map_eq_some_iff.mp h
  rfl

/-- The tasks end in some order of time that is the order of the arrivals. Tasks that deliver nothing
have some place in it. -/
theorem exists_order {β : Type} (task : β → Task α) (bs : List β) (h : WellTimed start (bs.map task)) :
    ∃ order : List β, order.Perm bs ∧
      order.Pairwise (fun a b => (task a).finish ≤ (task b).finish) ∧
      order.filterMap (fun b => delivery? (task b)) = arrivals start (bs.map task) := by
  have hperm := arrivals_perm h
  rw [List.filterMap_map] at hperm
  obtain ⟨order, horder, harrivals⟩ := exists_perm_filterMap_eq hperm
  -- arrivals are in order of time, so sorting the tasks by time does not change them
  have hdelivering : (order.filter fun b => (delivery? (task b)).isSome).Pairwise
      fun a b => (task a).finish ≤ (task b).finish := by
    have hsorted := arrivals_sorted h
    rw [← harrivals, List.pairwise_filterMap] at hsorted
    refine List.pairwise_filter.mpr (hsorted.imp fun hab ha hb => ?_)
    obtain ⟨x, hx⟩ := Option.isSome_iff_exists.mp ha
    obtain ⟨y, hy⟩ := Option.isSome_iff_exists.mp hb
    have hxy := hab x hx y hy
    rwa [instant_of_delivery?_eq hx, instant_of_delivery?_eq hy] at hxy
  have hsorted : (order.mergeSort fun a b => (task a).finish ≤ (task b).finish).Pairwise
      fun a b => decide ((task a).finish ≤ (task b).finish) = true :=
    List.pairwise_mergeSort (by simp; lia) (by simp; lia) order
  refine ⟨_, (List.mergeSort_perm order _).trans horder, by simpa using hsorted, ?_⟩
  rw [filterMap_mergeSort_eq hdelivering]
  exact harrivals

end Scope

/-! ## Deliveries in another form -/

section

variable {α β : Type} (f : α → β)

def Waiting.map (t : Waiting α) : Waiting β := { t with delivers := t.delivers.map f }

def Arrival.map (a : Arrival α) : Arrival β := ⟨a.instant, f a.value⟩

theorem EventLoop.next?_map (queue : List (Waiting α)) :
    next? (queue.map (Waiting.map f)) =
      (next? queue).map fun x => (x.1.map f, x.2.map (Waiting.map f)) := by
  induction queue with
  | nil => rfl
  | cons t rest ih =>
    simp only [List.map_cons, next?, ih]
    cases next? rest with
    | none => rfl
    | some x =>
      show (if t.due ≤ x.1.due then _ else _) = Option.map _ (if t.due ≤ x.1.due then _ else _)
      split <;> rfl

/-- The event loop takes no notice of what is delivered. -/
theorem EventLoop.run_map (queue : List (Waiting α)) :
    run (queue.map (Waiting.map f)) = (run queue).map (Arrival.map f) := by
  fun_induction run queue with
  | case1 queue hnone =>
    rw [next?_eq_none_iff.mp hnone, List.map_nil, run]
    rfl
  | case2 queue t others hnext hlater ih =>
    have hmap : next? (queue.map (Waiting.map f)) = some (t.map f, others.map (Waiting.map f)) := by
      rw [next?_map, hnext]
      rfl
    have harrival : arrival t.due (t.delivers.map f) =
        (arrival t.due t.delivers).map (Arrival.map f) := by
      cases t.delivers <;> rfl
    rw [run_of_last hmap hlater, ih, List.map_append, ← harrival]
    rfl
  | case3 queue t others hnext due later hlater ih =>
    have hmap : next? (queue.map (Waiting.map f)) = some (t.map f, others.map (Waiting.map f)) := by
      rw [next?_map, hnext]
      rfl
    rw [run_of_later hmap hlater, ← ih, List.map_append]
    rfl

theorem Timeline.wakes_map (t : Timeline α) : (t.map f).wakes = t.wakes := rfl

/-- What arrives in another form arrives at the same instants and in the same order. -/
theorem Scope.arrivals_map (start : Instant) (tasks : List (Task α)) :
    arrivals start (tasks.map (Timeline.map (Option.map f))) =
      (arrivals start tasks).map (Arrival.map f) := by
  have hatStart : ∀ t : Task α, atStart start (t.map (Option.map f)) =
      (atStart start t).map (Arrival.map f) := by
    intro t
    simp only [atStart, Timeline.wakes_map]
    cases t.wakes with
    | nil =>
      cases hvalue : t.value with
      | none => simp [Timeline.map, hvalue, EventLoop.arrival]
      | some value => cases value <;> simp [Timeline.map, hvalue, EventLoop.arrival, Arrival.map]
    | cons due later => rfl
  have henqueued : ∀ t : Task α, enqueued (t.map (Option.map f)) =
      (enqueued t).map (Waiting.map f) := by
    intro t
    simp only [enqueued, Timeline.wakes_map]
    cases t.wakes with
    | nil => rfl
    | cons due later =>
      cases hvalue : t.value with
      | none => simp [Timeline.map, hvalue, Waiting.map]
      | some value => cases value <;> simp [Timeline.map, hvalue, Waiting.map]
  simp only [arrivals, List.flatMap_map, hatStart, henqueued, List.map_append,
    ← EventLoop.run_map, List.map_flatMap]

theorem Scope.drain_map (start : Instant) (tasks : List (Task α)) :
    drain start (tasks.map (Timeline.map (Option.map f))) =
      (drain start tasks).map (List.map (Arrival.map f)) := by
  simp [drain, Run.map, arrivals_map, finish, calls, List.foldl_map, List.flatMap_map,
    Timeline.map]

theorem Scope.first_map (start deadline : Instant) (policy : Stragglers) (tasks : List (Task α)) :
    first start deadline policy (tasks.map (Timeline.map (Option.map f))) =
      (first start deadline policy tasks).map (Option.map (Arrival.map f)) := by
  have hwinner : winner? start deadline (tasks.map (Timeline.map (Option.map f))) =
      (winner? start deadline tasks).map (Arrival.map f) := by
    simp only [winner?, arrivals_map, List.head?_map]
    cases (arrivals start tasks).head? with
    | none => rfl
    | some a =>
      simp only [Option.map_some, Option.filter, Arrival.map]
      split <;> rfl
  have hfinish : finish start (tasks.map (Timeline.map (Option.map f))) = finish start tasks := by
    simp [finish, List.foldl_map, Timeline.map]
  have hgivenUp : givenUp start deadline (tasks.map (Timeline.map (Option.map f))) =
      givenUp start deadline tasks := by
    simp only [givenUp, hfinish]
  have hcalls : calls (tasks.map (Timeline.map (Option.map f))) = calls tasks := by
    simp [calls, List.flatMap_map, Timeline.map]
  unfold first
  rw [hwinner, hgivenUp, hcalls]
  cases winner? start deadline tasks <;> cases policy <;> rfl

end

namespace Scope

variable {α : Type} {start : Instant} {tasks : List (Task α)}

/-! ## The end of a scope -/

theorem le_finish (start : Instant) (tasks : List (Task α)) : start ≤ finish start tasks := by
  unfold finish
  induction tasks generalizing start with
  | nil => exact Nat.le_refl _
  | cons t rest ih => exact Nat.le_trans (Nat.le_max_left _ _) (ih (max start t.finish))

/-- When the last task ends does not depend on the order of the tasks. -/
theorem finish_perm {tasks' : List (Task α)} (h : tasks.Perm tasks') :
    finish start tasks = finish start tasks' := by
  have : RightCommutative fun (latest : Instant) (t : Task α) => max latest t.finish :=
    ⟨fun latest t u => by lia⟩
  exact h.foldl_eq start

theorem le_finish_of_mem {t : Task α} (h : t ∈ tasks) : t.finish ≤ finish start tasks := by
  obtain ⟨before, after, rfl⟩ := List.append_of_mem h
  rw [finish_perm List.perm_middle]
  exact (Nat.le_max_right _ _).trans (le_finish _ _)

theorem finish_le {now : Instant} (hstart : start ≤ now) (h : ∀ t ∈ tasks, t.finish ≤ now) :
    finish start tasks ≤ now := by
  unfold finish
  induction tasks generalizing start with
  | nil => exact hstart
  | cons t rest ih =>
    rw [List.forall_mem_cons] at h
    exact ih (Nat.max_le.mpr ⟨hstart, h.1⟩) h.2

theorem finish_eq_start_or (start : Instant) (tasks : List (Task α)) :
    finish start tasks = start ∨ ∃ t ∈ tasks, t.finish = finish start tasks := by
  induction tasks generalizing start with
  | nil => exact .inl rfl
  | cons t rest ih =>
    have hcons : finish start (t :: rest) = finish (max start t.finish) rest := rfl
    rw [hcons]
    rcases ih (max start t.finish) with h | ⟨u, hu, h⟩
    · rw [h]
      rcases Nat.le_total start t.finish with hle | hle
      · exact .inr ⟨t, List.mem_cons_self, (Nat.max_eq_right hle).symm⟩
      · exact .inl (Nat.max_eq_left hle)
    · exact .inr ⟨u, List.mem_cons_of_mem t hu, h⟩

/-- A scope with tasks ends at the very instant at which one of them does. -/
theorem exists_last (h : WellTimed start tasks) (hne : tasks ≠ []) :
    ∃ t ∈ tasks, t.finish = finish start tasks := by
  rcases finish_eq_start_or start tasks with heq | hlast
  · -- then no task takes any time at all
    rcases List.exists_mem_of_ne_nil tasks hne with ⟨t, ht⟩
    refine ⟨t, ht, ?_⟩
    apply Nat.le_antisymm (le_finish_of_mem ht)
    rw [heq]
    exact (h t ht).le
  · exact hlast

/-- Tasks that run for some time each end when the longest of them does. -/
theorem finish_map_eq {β : Type} {task : β → Task α} {duration : β → Nat}
    (h : ∀ b, (task b).finish = start + duration b) (bs : List β) :
    finish start (bs.map task) = start + (bs.map duration).foldr max 0 := by
  -- the fold goes on from what the tasks before have reached, so the induction carries that along
  suffices ∀ longest : Nat, (bs.map task).foldl (fun latest t => max latest t.finish)
      (start + longest) = start + max longest ((bs.map duration).foldr max 0) by
    have h0 := this 0
    simpa [finish] using h0
  induction bs with
  | nil =>
    intro longest
    simp
  | cons b rest ih =>
    intro longest
    have hmax : max (start + longest) (start + duration b) = start + max longest (duration b) := by
      lia
    simp only [List.map_cons, List.foldl_cons, List.foldr_cons, h, hmax, ih]
    rw [max_assoc]

theorem first_result (deadline : Instant) (policy : Stragglers) (tasks : List (Task α)) :
    (first start deadline policy tasks).result = winner? start deadline tasks := by
  cases policy <;> rfl

/-- The moment at which a wait for the first delivery ends does not depend on what becomes of the
others. -/
theorem first_moment (deadline : Instant) (policy : Stragglers) (tasks : List (Task α)) :
    (first start deadline policy tasks).moment =
      match winner? start deadline tasks with
      | some a => ⟨a.instant, true⟩
      | none => givenUp start deadline tasks := by
  cases policy <;> rfl

/-- The winner arrives no later than anything else. -/
theorem winner?_eq_some {deadline : Instant} {b : Arrival α} (h : WellTimed start tasks)
    (hb : b ∈ arrivals start tasks) (hdeadline : b.instant < deadline) :
    ∃ a ∈ arrivals start tasks, a.instant ≤ b.instant ∧
      winner? start deadline tasks = some a := by
  cases hhead : (arrivals start tasks).head? with
  | none =>
    rw [List.head?_eq_none_iff.mp hhead] at hb
    cases hb
  | some a =>
    have hle := instant_le_of_head?_eq h hhead b hb
    refine ⟨a, List.mem_of_mem_head? hhead, hle, ?_⟩
    simp only [winner?, hhead, Option.filter_eq_some_iff, true_and, Bool.or_eq_true,
      decide_eq_true_eq]
    exact .inr (Nat.lt_of_le_of_lt hle hdeadline)

theorem mem_of_winner?_eq {deadline : Instant} {a : Arrival α}
    (h : winner? start deadline tasks = some a) : a ∈ arrivals start tasks :=
  List.mem_of_mem_head? (Option.filter_eq_some_iff.mp h).1

/-- A scope that is given up ends with its last task, if no task outlasts the deadline. -/
theorem givenUp_instant {deadline : Instant} (h : finish start tasks ≤ deadline) :
    (givenUp start deadline tasks).instant = finish start tasks := by
  unfold givenUp
  by_cases hlast : finish start tasks = start ∨ finish start tasks < deadline
  · simp only [hlast, if_true]
  · simp only [hlast, if_false]
    have hstart : start ≤ finish start tasks := le_finish start tasks
    lia

end Scope

end TxGateway
