import Mathlib.Algebra.Order.Field.Basic
import Mathlib.Algebra.Order.Field.Rat
import TxGateway.Fee

namespace TxGateway.Fee

/-! # Rates

The rate of a fee as a fraction. Cross multiplication compares fractions, so the cheapest fee of a
list is the first one whose fraction is the least.

* `compareRate_eq_compare` is the comparison of valid fees.
* `lowest?_firstCheapest` is the choice from a list of valid fees.
-/

/-- Satoshis for one byte. -/
def rate (f : Fee) : ℚ := f.satoshis.toNat / f.bytes.toNat

theorem isValid_iff {f : Fee} : f.isValid = true ↔ 0 < f.bytes.toNat := by
  simp [isValid, UInt64.lt_iff_toNat_lt]

theorem compareRate_eq_compare {a b : Fee} (ha : a.isValid = true) (hb : b.isValid = true) :
    a.compareRate b = compare a.rate b.rate := by
  have hapos : (0 : ℚ) < a.bytes.toNat := Nat.cast_pos.mpr (isValid_iff.mp ha)
  have hbpos : (0 : ℚ) < b.bytes.toNat := Nat.cast_pos.mpr (isValid_iff.mp hb)
  -- a fraction is less than another one as its cross product is
  have hlt : a.rate < b.rate ↔
      a.satoshis.toNat * b.bytes.toNat < b.satoshis.toNat * a.bytes.toNat := by
    rw [rate, rate, div_lt_div_iff₀ hapos hbpos]
    norm_cast
  have heq : a.rate = b.rate ↔
      a.satoshis.toNat * b.bytes.toNat = b.satoshis.toNat * a.bytes.toNat := by
    rw [rate, rate, div_eq_div_iff hapos.ne' hbpos.ne']
    norm_cast
  simp only [compareRate, ha, hb]
  rcases lt_trichotomy a.rate b.rate with h | h | h
  · rw [compare_lt_iff_lt.mpr h, compare_lt_iff_lt.mpr (hlt.mp h)]
  · rw [compare_eq_iff_eq.mpr h, compare_eq_iff_eq.mpr (heq.mp h)]
  · have hgt : b.satoshis.toNat * a.bytes.toNat < a.satoshis.toNat * b.bytes.toNat := by
      rw [← not_le, le_iff_lt_or_eq, ← hlt, ← heq]
      exact not_or.mpr ⟨h.not_gt, h.ne'⟩
    rw [compare_gt_iff_gt.mpr h, compare_gt_iff_gt.mpr hgt]

/-! ## The cheapest fee -/

/-- `f` stands in the list, every fee in front of it has a greater rate, and none behind it has a
smaller one. -/
def FirstCheapest (fees : List Fee) (f : Fee) : Prop :=
  ∃ before after, fees = before ++ f :: after ∧ (∀ e ∈ before, f.rate < e.rate) ∧
    ∀ e ∈ after, f.rate ≤ e.rate

theorem FirstCheapest.mem {fees : List Fee} {f : Fee} (h : FirstCheapest fees f) : f ∈ fees := by
  obtain ⟨before, after, rfl, -, -⟩ := h
  exact List.mem_append_right _ List.mem_cons_self

/-- No fee of the list has a smaller rate. -/
theorem FirstCheapest.le {fees : List Fee} {f e : Fee} (h : FirstCheapest fees f) (he : e ∈ fees) :
    f.rate ≤ e.rate := by
  obtain ⟨before, after, rfl, hbefore, hafter⟩ := h
  rcases List.mem_append.mp he with he | he
  · exact (hbefore e he).le
  · rcases List.mem_cons.mp he with rfl | he
    · exact le_refl _
    · exact hafter e he

/-- A dearer fee may be put in front. -/
theorem FirstCheapest.cons {fees : List Fee} {f e : Fee} (h : FirstCheapest fees f)
    (hlt : f.rate < e.rate) : FirstCheapest (e :: fees) f := by
  obtain ⟨before, after, rfl, hbefore, hafter⟩ := h
  exact ⟨e :: before, after, rfl, List.forall_mem_cons.mpr ⟨hlt, hbefore⟩, hafter⟩

/-- Behind a fee that is no dearer, another one does not change the choice. -/
theorem FirstCheapest.insert {rest : List Fee} {f g e : Fee} (h : FirstCheapest (g :: rest) f)
    (hle : g.rate ≤ e.rate) : FirstCheapest (g :: e :: rest) f := by
  obtain ⟨before, after, hsplit, hbefore, hafter⟩ := h
  cases before with
  | nil =>
    obtain ⟨rfl, rfl⟩ := List.cons.inj hsplit
    exact ⟨[], e :: rest, rfl, by simp, List.forall_mem_cons.mpr ⟨hle, hafter⟩⟩
  | cons x before =>
    obtain ⟨rfl, rfl⟩ := List.cons.inj hsplit
    obtain ⟨hlt, hbefore⟩ := List.forall_mem_cons.mp hbefore
    refine ⟨g :: e :: before, after, rfl, ?_, hafter⟩
    exact List.forall_mem_cons.mpr ⟨hlt, List.forall_mem_cons.mpr ⟨hlt.trans_le hle, hbefore⟩⟩

theorem cheaper_eq {a b : Fee} (ha : a.isValid = true) (hb : b.isValid = true) :
    cheaper a b = if b.rate < a.rate then b else a := by
  rw [cheaper, compareRate_eq_compare hb ha]
  simp only [compare_lt_iff_lt]

/-- Going through a list, the cheaper of each fee and the one kept so far is the first cheapest. -/
theorem foldl_cheaper_firstCheapest {f : Fee} {rest : List Fee}
    (hvalid : ∀ e ∈ f :: rest, e.isValid = true) :
    FirstCheapest (f :: rest) (rest.foldl cheaper f) := by
  -- along the list, for any fee that has been kept so far
  induction rest generalizing f with
  | nil => exact ⟨[], [], rfl, by simp, by simp⟩
  | cons e rest ih =>
    obtain ⟨hf, hvalid⟩ := List.forall_mem_cons.mp hvalid
    obtain ⟨he, hrest⟩ := List.forall_mem_cons.mp hvalid
    rw [List.foldl_cons, cheaper_eq hf he]
    by_cases hlt : e.rate < f.rate
    · rw [if_pos hlt]
      have hchosen := ih (f := e) (List.forall_mem_cons.mpr ⟨he, hrest⟩)
      exact hchosen.cons ((hchosen.le List.mem_cons_self).trans_lt hlt)
    · rw [if_neg hlt]
      have hchosen := ih (f := f) (List.forall_mem_cons.mpr ⟨hf, hrest⟩)
      exact hchosen.insert (not_lt.mp hlt)

/-- The cheapest fee of a list that is not empty is the first one of the least rate. -/
theorem lowest?_firstCheapest {fees : List Fee} (hne : fees ≠ [])
    (hvalid : ∀ e ∈ fees, e.isValid = true) :
    ∃ f, lowest? fees = some f ∧ FirstCheapest fees f := by
  cases fees with
  | nil => exact absurd rfl hne
  | cons f rest => exact ⟨_, rfl, foldl_cheaper_firstCheapest hvalid⟩

end TxGateway.Fee
