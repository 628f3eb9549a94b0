import TxGateway.Proofs.FeeSurvey.Selection

namespace TxGateway

/-! # The fee of a transaction

The satoshis for a transaction are its size times the rate, rounded up. Rounding keeps the order of
the rates, so the fee of the least rate is the cheapest for a transaction of any size.

* `Fee.estimate_le_iff` says which amounts are enough.
* `Fee.estimate_le_of_rate_le` is that rounding keeps the order.
* `FeeSurvey.chosen_fee_is_cheapest` is about the fee chosen from a list of miners, and about the
  one that a survey leaves.
-/

namespace Fee

variable {a b f : Fee} {size : Nat}

/-- The product of the size and the satoshis fits in a word. -/
def Fits (f : Fee) (size : Nat) : Prop := size * f.satoshis.toNat < UInt64.size

/-- So many satoshis pay for a transaction of the size. -/
def Pays (f : Fee) (size n : Nat) : Prop := size * f.satoshis.toNat ≤ n * f.bytes.toNat

/-- An amount pays just if it is not below the estimate. -/
theorem estimate_le_iff (hvalid : f.isValid = true) {n : Nat} :
    f.estimate size ≤ n ↔ f.Pays size n := by
  have hbytes := isValid_iff.mp hvalid
  rw [estimate, if_pos hvalid, Nat.div_le_iff_le_mul_add_pred hbytes, Nat.add_le_add_iff_right,
    Nat.mul_comm f.bytes.toNat, Pays]

/-- The estimate is the least amount that pays. -/
theorem estimate_isLeast (hvalid : f.isValid = true) :
    IsLeast {n | f.Pays size n} (f.estimate size) := by
  constructor
  · exact (estimate_le_iff hvalid).mp (le_refl _)
  · intro n hn
    exact (estimate_le_iff hvalid).mpr hn

/-- Rounding up does not leave the words. -/
theorem estimate_lt_of_fits (hvalid : f.isValid = true) (hfits : f.Fits size) :
    f.estimate size < UInt64.size := by
  have hpays : f.Pays size (size * f.satoshis.toNat) :=
    Nat.le_mul_of_pos_right _ (isValid_iff.mp hvalid)
  exact Nat.lt_of_le_of_lt ((estimate_le_iff hvalid).mpr hpays) hfits

/-- What pays at a rate pays at one that is no dearer. -/
theorem Pays.of_rate_le (ha : a.isValid = true) (hb : b.isValid = true) (hle : a.rate ≤ b.rate)
    {n : Nat} (h : b.Pays size n) : a.Pays size n := by
  have hapos : 0 < a.bytes.toNat := isValid_iff.mp ha
  have hbpos : 0 < b.bytes.toNat := isValid_iff.mp hb
  have hcross : a.satoshis.toNat * b.bytes.toNat ≤ b.satoshis.toNat * a.bytes.toNat := by
    rw [rate, rate, div_le_div_iff₀ (Nat.cast_pos.mpr hapos) (Nat.cast_pos.mpr hbpos)] at hle
    exact_mod_cast hle
  -- the two denominators are brought together, and the one that is too much is cancelled
  apply Nat.le_of_mul_le_mul_right _ hbpos
  calc size * a.satoshis.toNat * b.bytes.toNat
      = size * (a.satoshis.toNat * b.bytes.toNat) := Nat.mul_assoc ..
    _ ≤ size * (b.satoshis.toNat * a.bytes.toNat) := Nat.mul_le_mul_left _ hcross
    _ = size * b.satoshis.toNat * a.bytes.toNat := (Nat.mul_assoc ..).symm
    _ ≤ n * b.bytes.toNat * a.bytes.toNat := Nat.mul_le_mul_right _ h
    _ = n * a.bytes.toNat * b.bytes.toNat := Nat.mul_right_comm ..

/-- Rounding up keeps the order of the rates. -/
theorem estimate_le_of_rate_le (ha : a.isValid = true) (hb : b.isValid = true)
    (hle : a.rate ≤ b.rate) : a.estimate size ≤ b.estimate size := by
  rw [estimate_le_iff ha]
  exact (estimate_isLeast hb).1.of_rate_le ha hb hle

end Fee

namespace FeeSurvey

variable {miners : List Miner} {chosen : Fee}

/-- For a transaction whose products fit, the estimates of the miners are the least amounts that
pay, and fit too, and none of them is below that of the chosen fee. -/
def Cheapest (miners : List Miner) (chosen : Fee) : Prop :=
  ∀ size : Nat, (∀ m ∈ miners, ∀ fee, m.fee = some fee → fee.Fits size) →
    ∀ m ∈ miners, ∀ fee, m.fee = some fee →
      IsLeast {n | fee.Pays size n} (fee.estimate size) ∧ fee.estimate size < UInt64.size ∧
        chosen.estimate size ≤ fee.estimate size

theorem cheapest_of_firstCheapest (hfees : ∀ m ∈ miners, BearsFee m)
    (h : Fee.FirstCheapest (miners.filterMap Miner.fee) chosen) : Cheapest miners chosen := by
  intro size hfits m hm fee hfee
  rcases List.mem_filterMap.mp h.mem with ⟨bearer, hbearer, hchosen⟩
  have hvalid := (hfees m hm).isValid hfee
  have hrate : chosen.rate ≤ fee.rate := h.le (List.mem_filterMap.mpr ⟨m, hm, hfee⟩)
  refine ⟨Fee.estimate_isLeast hvalid, Fee.estimate_lt_of_fits hvalid (hfits m hm fee hfee), ?_⟩
  exact Fee.estimate_le_of_rate_le ((hfees bearer hbearer).isValid hchosen) hvalid hrate

/-- A survey that goes by the quoted fees leaves the cheapest of them. -/
theorem run_cheapest {w : World} {start : Instant} {clock : Timestamp} {limit : Nat}
    {broadcast query : List Miner} {x : Selection}
    (h : (run w start clock limit true broadcast query).result = .ok x) :
    Cheapest x.broadcast x.fee := by
  rcases run_eq_ok h with ⟨-, -, hfees, -⟩
  have hconcludes := run_concludes w start clock limit true broadcast query
  rw [h] at hconcludes
  rcases hconcludes.nonempty with ⟨hkept, hquery⟩
  rcases hconcludes.chosen hkept hquery with ⟨fee, hx, -, hcheapest⟩
  cases hx
  exact cheapest_of_firstCheapest hfees (hcheapest rfl)

/-- Of miners that bear fees, one fee is chosen, and it is the cheapest for every transaction. An
estimate is the least amount that pays for the size, and no miner has one below that of the chosen
fee. The fee that a survey leaves is such a choice. -/
theorem chosen_fee_is_cheapest :
    (∀ miners : List Miner, miners ≠ [] → (∀ m ∈ miners, BearsFee m) →
      ∃ chosen, Fee.lowest? (miners.filterMap Miner.fee) = some chosen ∧
        Cheapest miners chosen) ∧
    (∀ (w : World) (start : Instant) (clock : Timestamp) (limit : Nat)
      (broadcast query : List Miner) (x : Selection),
      (run w start clock limit true broadcast query).result = .ok x →
      Cheapest x.broadcast x.fee) := by
  constructor
  · intro miners hne hfees
    rcases lowest?_of_bearsFee hne hfees with ⟨chosen, hlowest, hchosen⟩
    exact ⟨chosen, hlowest, cheapest_of_firstCheapest hfees hchosen⟩
  · intro w start clock limit broadcast query x h
    exact run_cheapest h

/-- A rate just above one half is not taken for one half, though its denominator has eighteen
digits, and it makes a transaction dearer. A survey that keeps one miner leaves the fee of that
one. -/
theorem half_is_cheaper_than_above_half :
    let half : Fee := ⟨1, 2⟩
    let above : Fee := ⟨0x100000000000000, 0x1ffffffffffffff⟩
    let wide : Miner := { id := "w", name := "Wide", url := "u", fee := some above }
    let even : Miner := { id := "e", name := "Even", url := "u", fee := some half }
    Fee.lowest? ([wide, even].filterMap Miner.fee) = some half ∧ Cheapest [wide, even] half ∧
      IsLeast {n | above.Pays 226 n} 114 ∧ half.estimate 226 = 113 ∧
      half.estimate 226 ≤ above.estimate 226 ∧
    let clock : Timestamp := ⟨⟨2025, 1, 1⟩, 12, 0, 0, 0⟩
    let near : Miner := { id := "n", name := "Near", url := "u" }
    let nearLeft : Miner := { near with fee := some ⟨1, 20⟩, probedAt := some clock }
    (run fourMiners.world 0 clock 10 true [near] [near]).result =
      .ok ⟨[nearLeft], [near], ⟨1, 20⟩⟩ ∧ Cheapest [nearLeft] ⟨1, 20⟩ := by
  intro half above wide even
  rcases chosen_fee_is_cheapest with ⟨hlists, hsurveys⟩
  have hfees : ∀ m ∈ [wide, even], BearsFee m := by
    intro m hm
    rcases List.mem_pair.mp hm with rfl | rfl
    · exact ⟨above, rfl, rfl⟩
    · exact ⟨half, rfl, rfl⟩
  rcases hlists [wide, even] (List.cons_ne_nil _ _) hfees with ⟨chosen, hlowest, hcheapest⟩
  have hhalf : Fee.lowest? ([wide, even].filterMap Miner.fee) = some half := by decide
  obtain rfl : half = chosen := Option.some.inj (hhalf.symm.trans hlowest)
  have hfits : ∀ m ∈ [wide, even], ∀ fee, m.fee = some fee → fee.Fits 226 := by
    intro m hm fee hfee
    rcases List.mem_pair.mp hm with rfl | rfl
    · cases hfee
      unfold Fee.Fits
      decide
    · cases hfee
      unfold Fee.Fits
      decide
  rcases hcheapest 226 hfits wide List.mem_cons_self above rfl with ⟨hleast, -, hle⟩
  have habove : above.estimate 226 = 114 := by decide
  rw [habove] at hleast
  refine ⟨hhalf, hcheapest, hleast, by decide, hle, ?_⟩
  intro clock near nearLeft
  have hrun : (run fourMiners.world 0 clock 10 true [near] [near]).result =
      .ok ⟨[nearLeft], [near], ⟨1, 20⟩⟩ := by decide +kernel
  exact ⟨hrun, hsurveys _ _ _ _ _ _ _ hrun⟩

end FeeSurvey

end TxGateway
