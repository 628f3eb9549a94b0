import TxGateway.Proofs.Fee.Rate
import TxGateway.Proofs.FeeSurvey.Survivors
import TxGateway.Scripted

namespace TxGateway.FeeSurvey

/-! # The selection of a survey

What a survey comes to is decided by the miners that quote a fee and by the list for queries.

* `Concludes` tells the result when some miners are left.
* `survey_keeps_quoting_miners` says that those left are the miners that quote a fee.
-/

variable {useQuotedFees : Bool} {query kept : List Miner}

/-- What a survey comes to when `kept` are the miners that are left. -/
structure Concludes (useQuotedFees : Bool) (query kept : List Miner)
    (result : Except Failure Selection) : Prop where
  noneLeft : result = .error .noBroadcastMiners ↔ kept = []
  /-- That no miner is left is told before that there is none to query. -/
  noneToQuery : result = .error .noQueryMiners ↔ kept ≠ [] ∧ query = []
  chosen : kept ≠ [] → query ≠ [] → ∃ fee, result = .ok ⟨kept, query, fee⟩ ∧
    (useQuotedFees = false → fee = Fee.standard) ∧
    (useQuotedFees = true → Fee.FirstCheapest (kept.filterMap Miner.fee) fee)

/-- The miner bears a fee that can be used. -/
def BearsFee (m : Miner) : Prop := ∃ fee, m.fee = some fee ∧ fee.isValid = true

theorem BearsFee.isValid {m : Miner} {fee : Fee} (h : BearsFee m) (hfee : m.fee = some fee) :
    fee.isValid = true := by
  obtain ⟨fee', hfee', hvalid⟩ := h
  rw [hfee] at hfee'
  cases hfee'
  exact hvalid

theorem bearsFee_of_mem_quoting {outside : Nat → World} {clocks : Nat → Timestamp}
    {start : Instant} {limit : Nat} {broadcast : List Miner} {m : Miner}
    (h : m ∈ quoting outside clocks start limit broadcast) : BearsFee m := by
  obtain ⟨entry, -, h⟩ := List.mem_filterMap.mp h
  obtain ⟨fee, hquote, rfl⟩ := Option.map_eq_some_iff.mp h
  obtain ⟨-, -, -, hvalid⟩ := quotedFee?_eq_some.mp hquote
  exact ⟨fee, rfl, hvalid⟩

/-- Among miners that bear fees one has the cheapest. -/
theorem lowest?_of_bearsFee (hne : kept ≠ []) (hfees : ∀ m ∈ kept, BearsFee m) :
    ∃ fee, Fee.lowest? (kept.filterMap Miner.fee) = some fee ∧
      Fee.FirstCheapest (kept.filterMap Miner.fee) fee := by
  apply Fee.lowest?_firstCheapest
  · obtain ⟨m, hm⟩ := List.exists_mem_of_ne_nil _ hne
    obtain ⟨fee, hfee, -⟩ := hfees m hm
    exact List.ne_nil_of_mem (List.mem_filterMap.mpr ⟨m, hm, hfee⟩)
  · intro fee hfee
    obtain ⟨m, hm, hmfee⟩ := List.mem_filterMap.mp hfee
    exact (hfees m hm).isValid hmfee

theorem select_concludes {reports : List (Nat × Miner)}
    (hfees : ∀ m ∈ survivors reports, BearsFee m) :
    Concludes useQuotedFees query (survivors reports) (select useQuotedFees query reports) := by
  unfold select
  generalize survivors reports = kept at hfees ⊢
  -- that nobody is left is looked at first, and the query list only then
  cases kept with
  | nil => exact ⟨by simp, by simp, fun h => absurd rfl h⟩
  | cons m rest =>
    cases query with
    | nil => exact ⟨by simp, by simp, fun _ h => absurd rfl h⟩
    | cons q queryRest =>
      obtain ⟨fee, hlowest, hcheapest⟩ := lowest?_of_bearsFee (List.cons_ne_nil m rest) hfees
      refine ⟨by simp, by simp, fun _ _ => ⟨_, rfl, ?_, ?_⟩⟩
      · rintro rfl
        rfl
      · rintro rfl
        rw [hlowest]
        exact hcheapest

/-- A survey that succeeds has miners left, and miners to query. -/
theorem Concludes.nonempty {x : Selection} (h : Concludes useQuotedFees query kept (.ok x)) :
    kept ≠ [] ∧ query ≠ [] := by
  -- each list that is empty has an error of its own, and there was none
  have hkept : kept ≠ [] := by
    intro hnil
    cases h.noneLeft.mpr hnil
  refine ⟨hkept, ?_⟩
  intro hnil
  cases h.noneToQuery.mpr ⟨hkept, hnil⟩

/-- The fee of a selection can be used. -/
theorem Concludes.fee_isValid {x : Selection} (h : Concludes useQuotedFees query kept (.ok x))
    (hkept : kept ≠ []) (hquery : query ≠ []) (hfees : ∀ m ∈ kept, BearsFee m) :
    x.fee.isValid = true := by
  obtain ⟨fee, hx, hstandard, hcheapest⟩ := h.chosen hkept hquery
  cases hx
  cases useQuotedFees with
  | false =>
    rw [hstandard rfl]
    rfl
  | true =>
    obtain ⟨m, hm, hfee⟩ := List.mem_filterMap.mp (hcheapest rfl).mem
    exact (hfees m hm).isValid hfee

theorem select_concludes_quoting {outside : Nat → World} {clocks : Nat → Timestamp}
    {start : Instant} {limit : Nat} {broadcast : List Miner} {reports : List (Nat × Miner)}
    (h : reports.Perm (broadcast.zipIdx.filterMap (report? outside clocks start limit))) :
    Concludes useQuotedFees query (quoting outside clocks start limit broadcast)
      (select useQuotedFees query reports) := by
  have hsurvivors := survivors_eq_quoting h
  rw [← hsurvivors]
  exact select_concludes fun m hm => bearsFee_of_mem_quoting (hsurvivors ▸ hm)

theorem run_concludes (w : World) (start : Instant) (clock : Timestamp) (limit : Nat)
    (useQuotedFees : Bool) (broadcast query : List Miner) :
    Concludes useQuotedFees query (quoting (fun _ => w) (fun _ => clock) start limit broadcast)
      (run w start clock limit useQuotedFees broadcast query).result :=
  select_concludes_quoting (run_reports_perm w clock broadcast)

/-- What a survey that succeeds hands on can be used: miners for each purpose, and fees. -/
theorem run_eq_ok {w : World} {start : Instant} {clock : Timestamp} {limit : Nat}
    {broadcast : List Miner} {x : Selection}
    (h : (run w start clock limit useQuotedFees broadcast query).result = .ok x) :
    x.broadcast ≠ [] ∧ x.query ≠ [] ∧ (∀ m ∈ x.broadcast, BearsFee m) ∧ x.fee.isValid = true := by
  have hfees : ∀ m ∈ quoting (fun _ => w) (fun _ => clock) start limit broadcast, BearsFee m :=
    fun m hm => bearsFee_of_mem_quoting hm
  have hconcludes := run_concludes w start clock limit useQuotedFees broadcast query
  rw [h] at hconcludes
  obtain ⟨hkept, hquery⟩ := hconcludes.nonempty
  obtain ⟨fee, hx, -⟩ := hconcludes.chosen hkept hquery
  have hfee := hconcludes.fee_isValid hkept hquery hfees
  cases hx
  exact ⟨hkept, hquery, hfees, hfee⟩

/-- A survey leaves the miners that quote a valid fee in time, in the order of the list and as often
as they stand in it, whatever the order in which probes report and whichever of them crash. It asks
each miner of the list once and in its own dialect, and a miner that quotes no fee loses the one
that it had. -/
theorem survey_keeps_quoting_miners (start : Instant) (limit : Nat) (useQuotedFees : Bool)
    (broadcast query : List Miner) :
    (∀ (outside : Nat → World) (clocks : Nat → Timestamp) (reports : List (Nat × Miner)),
      reports.Perm (broadcast.zipIdx.filterMap (report? outside clocks start limit)) →
      Concludes useQuotedFees query (quoting outside clocks start limit broadcast)
        (select useQuotedFees query reports)) ∧
    (∀ (outside : Nat → World) (clocks : Nat → Timestamp) (entry : Miner × Nat),
      quote? outside start limit entry = none →
      ∀ r, report? outside clocks start limit entry = some r → r.2.fee = none) ∧
    (∀ (w : World) (clock : Timestamp),
      Concludes useQuotedFees query (quoting (fun _ => w) (fun _ => clock) start limit broadcast)
        (run w start clock limit useQuotedFees broadcast query).result ∧
      (run w start clock limit useQuotedFees broadcast query).allCalls.map CallTrace.call =
        broadcast.map fun m => .quote m.dialect m) := by
  refine ⟨fun outside clocks reports hreports => select_concludes_quoting hreports, ?_, ?_⟩
  · intro outside clocks entry hnone r hr
    rw [report?_eq_some hr, hnone]
    rfl
  · intro w clock
    exact ⟨run_concludes w start clock limit useQuotedFees broadcast query,
      run_calls w start clock limit useQuotedFees broadcast query⟩

/-- Four miners. Two quote the same rate, the later one faster; one is too slow, and the probe of
one crashes. -/
def fourMiners : Script where
  miners := some [
    ("Slow", { fee := .ok ⟨1, 1000⟩, pace := { latency := 30 } }),
    ("Gone", { pace := { latency := 1, crashes := [.quote] } }),
    ("Near", { fee := .ok ⟨1, 20⟩, pace := { latency := 5 } }),
    ("Far", { fee := .ok ⟨2, 40⟩, pace := { latency := 3 } })]

/-- The fee of the first miner that quotes the least rate is chosen, though the other one that does
so reports first; and a fee from before has no part in it. -/
theorem survey_keeps_two_of_four :
    let clock : Timestamp := ⟨⟨2025, 1, 1⟩, 12, 0, 0, 0⟩
    let slow : Miner := { id := "s", name := "Slow", url := "u", fee := some ⟨1, 1000⟩ }
    let gone : Miner := { id := "g", name := "Gone", url := "u" }
    let near : Miner := { id := "n", name := "Near", url := "u" }
    let far : Miner := { id := "f", name := "Far", url := "u", dialect := .arc }
    let nearLeft : Miner := { near with fee := some ⟨1, 20⟩, probedAt := some clock }
    let farLeft : Miner := { far with fee := some ⟨2, 40⟩, probedAt := some clock }
    let reports := [(3, farLeft), (2, nearLeft), (0, probed slow none clock)]
    let outside := fun _ : Nat => fourMiners.world
    let clocks := fun _ : Nat => clock
    reports.Perm ([slow, gone, near, far].zipIdx.filterMap (report? outside clocks 0 10)) ∧
      quote? outside 0 10 (slow, 0) = none ∧
      report? outside clocks 0 10 (slow, 0) = some (0, probed slow none clock) ∧
      (probed slow none clock).fee = none ∧
      Concludes true [slow] [nearLeft, farLeft] (select true [slow] reports) ∧
      select true [slow] reports = .ok ⟨[nearLeft, farLeft], [slow], ⟨1, 20⟩⟩ := by
  intro clock slow gone near far nearLeft farLeft reports outside clocks
  have hreports :
      reports.Perm ([slow, gone, near, far].zipIdx.filterMap (report? outside clocks 0 10)) := by
    decide
  have hquoting : quoting outside clocks 0 10 [slow, gone, near, far] = [nearLeft, farLeft] := by
    decide
  have hquote : quote? outside 0 10 (slow, 0) = none := by decide
  have hreport : report? outside clocks 0 10 (slow, 0) = some (0, probed slow none clock) := by
    decide
  have hkept : survivors reports = [nearLeft, farLeft] :=
    (survivors_eq_quoting hreports).trans hquoting
  have hselect : select true [slow] reports = .ok ⟨[nearLeft, farLeft], [slow], ⟨1, 20⟩⟩ := by
    unfold select
    rw [hkept]
    rfl
  obtain ⟨horders, hcleared, -⟩ :=
    survey_keeps_quoting_miners 0 10 true [slow, gone, near, far] [slow]
  have hconcludes := horders outside clocks reports hreports
  rw [hquoting] at hconcludes
  exact ⟨hreports, hquote, hreport, hcleared outside clocks (slow, 0) hquote _ hreport, hconcludes,
    hselect⟩

end TxGateway.FeeSurvey
