import Mathlib.Data.List.Pairwise
import TxGateway.Operation.FeeSurvey
import TxGateway.Proofs.Arrivals
import TxGateway.Proofs.Contacts

namespace TxGateway.FeeSurvey

/-! # The survivors of a survey

A survey makes one call a miner. The miners that stay are those that quote a valid fee in time, and
they stay with that fee in the order of the list, whatever the order in which the answers come.

* `run_calls` lists the calls of a survey.
* `quoting` are the miners that quote a fee, without any regard to tasks and arrivals.
* `survivors_eq_quoting` says that these are the ones that stay, and `mem_broadcast_iff` tells which
  miners a survey leaves.
-/

open Activity

variable {w : World} {start : Instant} {clock : Timestamp} {limit : Nat} {useQuotedFees : Bool}
  {broadcast query : List Miner} {x : Selection}

/-! ## Probes -/

/-- The course of a probe: one call, whose reply becomes the fee. -/
theorem probe_eq (clock : Timestamp) (limit position : Nat) (m : Miner) (w : World)
    (start : Instant) :
    probe clock (start + limit) position m w start =
      ⟨((w start (.quote m.dialect m)).course (.quote m.dialect m) limit start).calls,
        ((w start (.quote m.dialect m)).course (.quote m.dialect m) limit start).finish,
        ((w start (.quote m.dialect m)).course (.quote m.dialect m) limit start).value.map
          fun reply => some (position, probed m (validFee? reply) clock)⟩ := by
  have hlimit : start + limit - start = limit := Nat.add_sub_cancel_left start limit
  unfold probe
  rw [bind_pure_apply, Activity.ask_eq, hlimit]

/-- A survey asks every miner of the broadcast list for its fee, in order, and nobody else. -/
theorem run_calls (w : World) (start : Instant) (clock : Timestamp) (limit : Nat)
    (useQuotedFees : Bool) (broadcast query : List Miner) :
    (run w start clock limit useQuotedFees broadcast query).allCalls.map CallTrace.call =
      broadcast.map fun m => .quote m.dialect m := by
  have hprobe : ∀ position m, (probe clock (start + limit) position m w start).calls.map
      CallTrace.call = [.quote m.dialect m] := by
    intro position m
    obtain ⟨fate, hcalls⟩ := (w start (.quote m.dialect m)).course_calls
      (.quote m.dialect m) limit start
    rw [probe_eq, hcalls]
    rfl
  show (Scope.calls (broadcast.mapIdx fun i m => probe clock (start + limit) i m w start) ++
    []).map CallTrace.call = _
  rw [List.append_nil, Scope.calls, List.map_flatMap, List.mapIdx_eq_zipIdx_map, List.flatMap_map]
  simp only [hprobe, ← List.map_eq_flatMap]
  have hfst : broadcast.zipIdx.map Prod.fst = broadcast := List.zipIdx_map_fst 0 broadcast
  conv_rhs => rw [← hfst, List.map_map]
  rfl

/-- The miner answers a probe in time with a valid fee. -/
def NamesFee (w : World) (start : Instant) (limit : Nat) (m : Miner) (fee : Fee) : Prop :=
  ∃ d ≤ limit, w start (.quote m.dialect m) = .answer d (.ok fee) ∧ fee.isValid = true

theorem validFee?_eq_some {reply : Option (Reply Fee)} {fee : Fee} :
    validFee? reply = some fee ↔ reply = some (.ok fee) ∧ fee.isValid = true := by
  match reply with
  | none => simp [validFee?]
  | some (.error e) => simp [validFee?]
  | some (.ok fee') =>
    simp only [validFee?, Option.ite_none_right_eq_some, Option.some.injEq, Except.ok.injEq]
    constructor
    · rintro ⟨hvalid, rfl⟩
      exact ⟨rfl, hvalid⟩
    · rintro ⟨rfl, hvalid⟩
      exact ⟨hvalid, rfl⟩

theorem makes_probe (clock : Timestamp) (deadline : Instant) (position : Nat) (m : Miner) :
    Makes (· = .quote m.dialect m) (probe clock deadline position m) :=
  Makes.bind (Activity.makes_ask _ _) fun _ => makes_pure _

theorem wellTimed_probes : Scope.WellTimed start
    (broadcast.mapIdx fun i m => probe clock (start + limit) i m w start) := by
  intro t ht
  obtain ⟨i, hi, rfl⟩ := List.mem_mapIdx.mp ht
  exact (makes_probe _ _ _ _).gapless w start

/-! ## Quotes -/

/-- The fee that a response to a probe quotes within a limit, unless it is one for no bytes. -/
def quotedFee? (limit : Nat) : Response Fee → Option Fee
  | .answer delay (.ok fee) => if delay ≤ limit ∧ 0 < fee.bytes then some fee else none
  | _ => none

theorem quotedFee?_eq_some {r : Response Fee} {fee : Fee} : quotedFee? limit r = some fee ↔
    ∃ d ≤ limit, r = .answer d (.ok fee) ∧ fee.isValid = true := by
  match r with
  | .answer delay (.ok fee') =>
    simp only [quotedFee?, Option.ite_none_right_eq_some, Option.some.injEq, Fee.isValid,
      decide_eq_true_eq, Response.answer.injEq, Except.ok.injEq]
    constructor
    · rintro ⟨⟨hd, hvalid⟩, rfl⟩
      exact ⟨delay, hd, ⟨rfl, rfl⟩, hvalid⟩
    · rintro ⟨d, hd, ⟨rfl, rfl⟩, hvalid⟩
      exact ⟨⟨hd, hvalid⟩, rfl⟩
  | .answer delay (.error e) => simp [quotedFee?]
  | .crash delay => simp [quotedFee?]
  | .silence => simp [quotedFee?]

/-- A probe that does not crash takes for valid just the fee that is quoted. -/
theorem validFee?_eq_quotedFee? {r : Response Fee} {c : Call} {now : Instant}
    {reply : Option (Reply Fee)} (h : (r.course c limit now).value = some reply) :
    validFee? reply = quotedFee? limit r := by
  ext fee
  rw [validFee?_eq_some, quotedFee?_eq_some]
  constructor
  · rintro ⟨rfl, hvalid⟩
    obtain ⟨d, hd, rfl⟩ := Response.course_value_eq_reply.mp h
    exact ⟨d, hd, rfl, hvalid⟩
  · rintro ⟨d, hd, hanswer, hvalid⟩
    rw [Response.course_value_eq_reply.mpr ⟨d, hd, hanswer⟩] at h
    exact ⟨(Option.some.inj h).symm, hvalid⟩

/-! ## Reports -/

section

variable (outside : Nat → World) (clocks : Nat → Timestamp) (start : Instant) (limit : Nat)

/-- What the probe of the miner at a position reports, unless its task crashes. Each probe meets an
outside of its own, and marks the miner by a clock of its own. -/
def report? (entry : Miner × Nat) : Option (Nat × Miner) :=
  (probe (clocks entry.2) (start + limit) entry.2 entry.1 (outside entry.2) start).value.join

/-- The fee that the miner at a position quotes. -/
def quote? (entry : Miner × Nat) : Option Fee :=
  quotedFee? limit (outside entry.2 start (.quote entry.1.dialect entry.1))

/-- The miners that quote a fee, in the order of the list, each with the fee that it quotes. -/
def quoting (broadcast : List Miner) : List Miner :=
  broadcast.zipIdx.filterMap fun entry =>
    (quote? outside start limit entry).map fun fee =>
      { entry.1 with fee := some fee, probedAt := some (clocks entry.2) }

variable {outside clocks start limit} {entry : Miner × Nat}

/-- A report tells the position of the miner and the fee that it quotes, if it quotes one. A fee
that the miner had before is gone. -/
theorem report?_eq_some {r : Nat × Miner}
    (h : report? outside clocks start limit entry = some r) :
    r = (entry.2, probed entry.1 (quote? outside start limit entry) (clocks entry.2)) := by
  rw [report?, probe_eq, Option.join_eq_some_iff, Option.map_eq_some_iff] at h
  obtain ⟨reply, hreply, heq⟩ := h
  cases heq
  rw [quote?, validFee?_eq_quotedFee? hreply]

theorem report?_isSome {fee : Fee} (h : quote? outside start limit entry = some fee) :
    (report? outside clocks start limit entry).isSome = true := by
  obtain ⟨d, hd, hanswer, -⟩ := quotedFee?_eq_some.mp h
  rw [report?, probe_eq, Response.course_value_eq_reply.mpr ⟨d, hd, hanswer⟩]
  rfl

/-- A miner stays by its report if and only if it quotes a fee. -/
theorem report?_filter (entry : Miner × Nat) :
    ((report? outside clocks start limit entry).map Prod.snd).filter (fun m => m.fee.isSome) =
      (quote? outside start limit entry).map fun fee =>
        { entry.1 with fee := some fee, probedAt := some (clocks entry.2) } := by
  cases hquote : quote? outside start limit entry with
  | none =>
    cases hreport : report? outside clocks start limit entry with
    | none => rfl
    | some r =>
      rw [report?_eq_some hreport, hquote]
      rfl
  | some fee =>
    have hsome : (report? outside clocks start limit entry).isSome = true := report?_isSome hquote
    obtain ⟨r, hreport⟩ := Option.isSome_iff_exists.mp hsome
    rw [hreport, report?_eq_some hreport, hquote]
    rfl

end

/-! ## Survivors -/

/-- In a list whose positions increase, the position tells the report. -/
theorem eq_of_position_eq {inOrder : List (Nat × Miner)}
    (horder : inOrder.Pairwise fun a b => a.1 < b.1) :
    ∀ a ∈ inOrder, ∀ b ∈ inOrder, a.1 = b.1 → a = b := by
  intro a ha b hb
  refine List.Pairwise.forall_of_forall_of_flip (R := fun a b => a.1 = b.1 → a = b) ?_ ?_ ?_ ha hb
  · exact fun _ _ _ => rfl
  · exact horder.imp fun hlt heq => absurd heq (Nat.ne_of_lt hlt)
  · exact horder.imp fun hlt heq => absurd heq.symm (Nat.ne_of_lt hlt)

/-- Reports that are put in the order of their positions come out as if they had arrived so. -/
theorem survivors_of_perm {reports inOrder : List (Nat × Miner)} (hperm : reports.Perm inOrder)
    (horder : inOrder.Pairwise fun a b => a.1 < b.1) :
    survivors reports = (inOrder.map Prod.snd).filter fun m => m.fee.isSome := by
  have hsort : (reports.mergeSort fun a b => a.1 ≤ b.1).Pairwise
      fun a b => decide (a.1 ≤ b.1) = true :=
    List.pairwise_mergeSort (by simp; lia) (by simp; lia) reports
  -- no two reports have one position, so only one list of them is sorted
  have hperm' := (List.mergeSort_perm reports fun a b => a.1 ≤ b.1).trans hperm
  have hsorted : (reports.mergeSort fun a b => a.1 ≤ b.1) = inOrder := by
    have hsame : ∀ a b : Nat × Miner, a ∈ reports.mergeSort (fun a b => a.1 ≤ b.1) →
        b ∈ inOrder → a.1 ≤ b.1 → b.1 ≤ a.1 → a = b := fun a b ha hb hab hba =>
      eq_of_position_eq horder a (hperm'.mem_iff.mp ha) b hb (Nat.le_antisymm hab hba)
    refine List.Perm.eq_of_pairwise hsame ?_ (horder.imp Nat.le_of_lt) hperm'
    simpa using hsort
  rw [survivors, hsorted]

/-- Whatever the order in which probes report, the miners that stay are those that quote a fee. -/
theorem survivors_eq_quoting {outside : Nat → World} {clocks : Nat → Timestamp}
    {reports : List (Nat × Miner)}
    (h : reports.Perm (broadcast.zipIdx.filterMap (report? outside clocks start limit))) :
    survivors reports = quoting outside clocks start limit broadcast := by
  -- in the order of the list, positions increase, and leaving some reports out does not change that
  have horder : (broadcast.zipIdx.filterMap (report? outside clocks start limit)).Pairwise
      fun a b => a.1 < b.1 := by
    have hpositions : (broadcast.zipIdx.map Prod.snd).Pairwise (· < ·) := by
      rw [List.zipIdx_map_snd]
      exact List.pairwise_lt_range'
    rw [List.pairwise_filterMap]
    refine (List.pairwise_map.mp hpositions).imp fun hlt a ha b hb => ?_
    rw [report?_eq_some ha, report?_eq_some hb]
    exact hlt
  rw [survivors_of_perm h horder, List.map_filterMap, List.filter_filterMap]
  simp only [report?_filter]
  rfl

/-- The reports of a survey are those of its probes, in some order. -/
theorem run_reports_perm (w : World) (clock : Timestamp) (broadcast : List Miner) :
    ((Scope.arrivals start (broadcast.mapIdx fun i m =>
        probe clock (start + limit) i m w start)).map Arrival.value).Perm
      (broadcast.zipIdx.filterMap (report? (fun _ => w) (fun _ => clock) start limit)) := by
  have hwell : Scope.WellTimed start
      (broadcast.mapIdx fun i m => probe clock (start + limit) i m w start) := wellTimed_probes
  have hperm := Scope.arrivals_values_perm hwell
  rw [List.mapIdx_eq_zipIdx_map, List.filterMap_map] at hperm
  rw [List.mapIdx_eq_zipIdx_map]
  exact hperm

theorem select_eq_ok {reports : List (Nat × Miner)}
    (h : select useQuotedFees query reports = .ok x) :
    x.broadcast = survivors reports ∧ x.query = query := by
  unfold select at h
  split at h
  · cases h
  · cases h
  · cases h
    exact ⟨rfl, rfl⟩

/-- The miners that a survey leaves are those that name a fee, with that fee. -/
theorem mem_broadcast_iff
    (h : (run w start clock limit useQuotedFees broadcast query).result = .ok x) {m : Miner} :
    m ∈ x.broadcast ↔
      ∃ m₀ ∈ broadcast, ∃ fee, NamesFee w start limit m₀ fee ∧ m = probed m₀ (some fee) clock := by
  have hleft : x.broadcast = quoting (fun _ => w) (fun _ => clock) start limit broadcast :=
    (select_eq_ok h).1.trans (survivors_eq_quoting (run_reports_perm w clock broadcast))
  rw [hleft, quoting, List.mem_filterMap]
  simp only [Option.map_eq_some_iff, quote?, quotedFee?_eq_some]
  constructor
  · rintro ⟨⟨m₀, i⟩, hentry, fee, hnames, rfl⟩
    exact ⟨m₀, List.fst_mem_of_mem_zipIdx hentry, fee, hnames, rfl⟩
  · rintro ⟨m₀, hm₀, fee, hnames, rfl⟩
    obtain ⟨i, hi, rfl⟩ := List.mem_iff_getElem.mp hm₀
    exact ⟨(broadcast[i], i), List.mem_zipIdx_iff_getElem?.mpr (List.getElem?_eq_getElem hi), fee,
      hnames, rfl⟩

end TxGateway.FeeSurvey
