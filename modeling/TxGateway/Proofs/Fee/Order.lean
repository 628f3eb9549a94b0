import Mathlib.Order.WithBot
import TxGateway.Proofs.Fee.Rate

namespace TxGateway.Fee

/-! # The order of fees

A fee that is not valid costs more than any rate. With one cost above all rates, fees are compared
by what they cost, and what holds of any linear order holds of fees.

* `cost` is the rate of a fee, or the top above all rates.
* `compareRate_eq_compare_cost` says that fees are compared by their costs.
* `toNat_cross` says that no product in the comparison leaves a word of 128 bits.
* `compareRate_total_preorder` is what the choice of a fee relies on.
-/

variable {a b c f : Fee}

/-- What a fee costs for one byte. A fee that is not valid costs more than any other. -/
def cost (f : Fee) : WithTop ℚ := if f.isValid then f.rate else ⊤

theorem cost_of_valid (h : f.isValid = true) : f.cost = f.rate := by
  rw [cost, if_pos h]

theorem cost_of_not_valid (h : f.isValid = false) : f.cost = ⊤ := by
  rw [cost, h, if_neg Bool.false_ne_true]

/-- Fees are compared by their costs, valid or not. -/
theorem compareRate_eq_compare_cost (a b : Fee) : a.compareRate b = compare a.cost b.cost := by
  -- the four cases of the comparison, in its own order
  rcases ha : a.isValid with _ | _ <;> rcases hb : b.isValid with _ | _
  · rw [cost_of_not_valid ha, cost_of_not_valid hb, compare_eq_iff_eq.mpr rfl]
    simp only [compareRate, ha, hb]
  · rw [cost_of_not_valid ha, cost_of_valid hb, compare_gt_iff_gt.mpr (WithTop.coe_lt_top _)]
    simp only [compareRate, ha, hb]
  · rw [cost_of_valid ha, cost_of_not_valid hb, compare_lt_iff_lt.mpr (WithTop.coe_lt_top _)]
    simp only [compareRate, ha, hb]
  · rw [cost_of_valid ha, cost_of_valid hb, compareRate_eq_compare ha hb]
    rcases lt_trichotomy a.rate b.rate with h | h | h
    · rw [compare_lt_iff_lt.mpr h, compare_lt_iff_lt.mpr (WithTop.coe_lt_coe.mpr h)]
    · rw [compare_eq_iff_eq.mpr h, compare_eq_iff_eq.mpr (congrArg _ h)]
    · rw [compare_gt_iff_gt.mpr h, compare_gt_iff_gt.mpr (WithTop.coe_lt_coe.mpr h)]

theorem compareRate_eq_lt_iff : a.compareRate b = .lt ↔ a.cost < b.cost := by
  rw [compareRate_eq_compare_cost, compare_lt_iff_lt]

theorem compareRate_ne_gt_iff : a.compareRate b ≠ .gt ↔ a.cost ≤ b.cost := by
  rw [compareRate_eq_compare_cost, compare_le_iff_le]

theorem compareRate_eq_eq_iff : a.compareRate b = .eq ↔ a.cost = b.cost := by
  rw [compareRate_eq_compare_cost, compare_eq_iff_eq]

/-! ## The products -/

/-- A product of the comparison, in a word of 128 bits. -/
def cross (a b : Fee) : BitVec 128 :=
  a.satoshis.toBitVec.setWidth 128 * b.bytes.toBitVec.setWidth 128

theorem product_lt (x y : UInt64) : x.toNat * y.toNat < 2 ^ 128 := by
  have hx : x.toNat < 2 ^ 64 := x.toNat_lt
  have hy : y.toNat < 2 ^ 64 := y.toNat_lt
  calc x.toNat * y.toNat
      < 2 ^ 64 * 2 ^ 64 := Nat.mul_lt_mul'' hx hy
    _ = 2 ^ 128 := (Nat.pow_add 2 64 64).symm

/-- Nothing is cut off from the product. -/
theorem toNat_cross (a b : Fee) : (cross a b).toNat = a.satoshis.toNat * b.bytes.toNat := by
  have hwide : ∀ x : UInt64, (x.toBitVec.setWidth 128).toNat = x.toNat := by
    intro x
    rw [BitVec.toNat_setWidth, UInt64.toNat_toBitVec]
    apply Nat.mod_eq_of_lt
    have hx := x.toNat_lt
    omega
  rw [cross, BitVec.toNat_mul, hwide, hwide]
  exact Nat.mod_eq_of_lt (product_lt _ _)

/-! ## The cheapest of any fees -/

theorem cost_cheaper (a b : Fee) : (cheaper a b).cost = min a.cost b.cost := by
  unfold cheaper
  split
  · next h => exact (min_eq_right (compareRate_eq_lt_iff.mp h).le).symm
  · next h =>
    rw [compareRate_eq_lt_iff, not_lt] at h
    exact (min_eq_left h).symm

/-- Whatever fees are in a list, the cheapest costs no more than any of them. -/
theorem cost_le_of_lowest? {fees : List Fee} (h : lowest? fees = some f) :
    ∀ e ∈ fees, f.cost ≤ e.cost := by
  cases fees with
  | nil => cases h
  | cons g rest =>
    cases h
    -- along the list, for any fee that has been kept so far
    induction rest generalizing g with
    | nil => simp
    | cons e rest ih =>
      have hkept := ih (cheaper g e)
      rw [List.forall_mem_cons, cost_cheaper, le_min_iff] at hkept
      rw [List.forall_mem_cons, List.forall_mem_cons]
      exact ⟨hkept.1.1, hkept.1.2, hkept.2⟩

/-! ## The order -/

/-- The comparison of fees is a total preorder on all of them. Turned around, it gives the reverse.
A fee that is no dearer than a second one, and that one no dearer than a third, is no dearer than the
third, and as dear only if all three are. Valid fees are compared as their rates are, and the others
are dearer than those and all alike. The products are exact in words of 128 bits. So the cheapest
fee of a list is no dearer than any other of it. -/
theorem compareRate_total_preorder :
    (∀ a b : Fee, b.compareRate a = (a.compareRate b).swap) ∧
    (∀ a b c : Fee, a.compareRate b ≠ .gt → b.compareRate c ≠ .gt →
      a.compareRate c ≠ .gt ∧
        (a.compareRate c = .eq ↔ a.compareRate b = .eq ∧ b.compareRate c = .eq)) ∧
    (∀ a b : Fee, a.isValid = true → b.isValid = true →
      a.compareRate b = compare a.rate b.rate ∧
        a.compareRate b = compare (cross a b).toNat (cross b a).toNat) ∧
    (∀ a b : Fee, a.isValid = false → a.compareRate b = if b.isValid then .gt else .eq) ∧
    (∀ a b : Fee, (cross a b).toNat = a.satoshis.toNat * b.bytes.toNat ∧
      a.satoshis.toNat * b.bytes.toNat < 2 ^ 128) ∧
    (∀ (fees : List Fee) (f : Fee), lowest? fees = some f → ∀ e ∈ fees, f.compareRate e ≠ .gt) := by
  refine ⟨?_, ?_, ?_, ?_, ?_, ?_⟩
  · intro a b
    rw [compareRate_eq_compare_cost, compareRate_eq_compare_cost]
    exact Std.OrientedCmp.eq_swap
  · intro a b c hab hbc
    rw [compareRate_ne_gt_iff] at hab hbc
    rw [compareRate_ne_gt_iff, compareRate_eq_eq_iff, compareRate_eq_eq_iff, compareRate_eq_eq_iff]
    refine ⟨hab.trans hbc, ?_, ?_⟩
    · -- the fee between the two costs what both of them do
      intro hac
      have hba : b.cost ≤ a.cost := hac ▸ hbc
      have heq : a.cost = b.cost := le_antisymm hab hba
      exact ⟨heq, heq ▸ hac⟩
    · rintro ⟨heq, heq'⟩
      exact heq.trans heq'
  · intro a b ha hb
    refine ⟨compareRate_eq_compare ha hb, ?_⟩
    rw [toNat_cross, toNat_cross]
    simp only [compareRate, ha, hb]
  · intro a b ha
    rcases hb : b.isValid with _ | _ <;> simp [compareRate, ha, hb]
  · intro a b
    exact ⟨toNat_cross a b, product_lt _ _⟩
  · intro fees f hf e he
    rw [compareRate_ne_gt_iff]
    exact cost_le_of_lowest? hf e he

/-- One half is written in two ways, and the dearest rate of all is still below a fee for no bytes.
The rate that is nearest to one from below is told from one, though both products have 128 bits. -/
theorem extreme_rates_compared :
    let half : Fee := ⟨1, 2⟩
    let alsoHalf : Fee := ⟨500, 1000⟩
    let most : Fee := ⟨0xffffffffffffffff, 1⟩
    let void : Fee := ⟨0, 0⟩
    let nearly : Fee := ⟨0xfffffffffffffffe, 0xffffffffffffffff⟩
    let one : Fee := ⟨0xffffffffffffffff, 0xffffffffffffffff⟩
    half.compareRate alsoHalf = .eq ∧ alsoHalf.compareRate void = .lt ∧
      half.compareRate void ≠ .gt ∧ void.compareRate most = .gt ∧ void.compareRate void = .eq ∧
      nearly.compareRate one = .lt ∧ compare nearly.rate one.rate = .lt ∧
      lowest? [void, alsoHalf, most, half] = some alsoHalf ∧ alsoHalf.compareRate half ≠ .gt := by
  intro half alsoHalf most void nearly one
  rcases compareRate_total_preorder with ⟨-, htrans, hvalid, hinvalid, -, hlowest⟩
  have hhalves : half.compareRate alsoHalf = .eq := by decide
  have hvoid : alsoHalf.compareRate void = .lt := by decide
  have hnearly : nearly.compareRate one = .lt := by decide
  have hchosen : lowest? [void, alsoHalf, most, half] = some alsoHalf := by decide
  have hthrough := htrans half alsoHalf void (by rw [hhalves]; decide) (by rw [hvoid]; decide)
  have hrates := (hvalid nearly one (by decide) (by decide)).1
  refine ⟨hhalves, hvoid, hthrough.1, hinvalid void most (by decide), hinvalid void void (by decide),
    hnearly, hrates ▸ hnearly, hchosen, ?_⟩
  exact hlowest _ _ hchosen half (by decide)

end TxGateway.Fee
