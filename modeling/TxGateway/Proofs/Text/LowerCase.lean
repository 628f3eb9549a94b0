import Mathlib.Data.List.Basic
import TxGateway.Text.LowerCase

namespace TxGateway.Text

/-! # Lower case and parts of a text

Lower-casing looks around each capital sigma, so the lower case of a text is not made of the lower
cases of its parts. For a search for ASCII characters this does not matter: the two lower-case forms
of the sigma differ from every one of them.

* `plainLower` takes each character by itself, so it goes through `++`.
* `infix_lower_iff` says that ASCII characters occur in `lower s` where they occur in `plainLower s`.
* `plainLower_of_variant` is about texts that differ from an ASCII text in the case of letters only.
-/

/-- Every character of the text is ASCII. -/
def Ascii (s : List Char) : Prop := ∀ c ∈ s, c.toNat < 0x80

-- decided along the list, and not over the characters, which are finitely many as well
instance (s : List Char) : Decidable (Ascii s) :=
  List.decidableBAll (fun c : Char => c.toNat < 0x80) s

/-- Lower case with every character taken by itself, so that no sigma is a final one. -/
def plainLower (s : List Char) : List Char := s.flatMap lowerChar

@[simp] theorem plainLower_cons (c : Char) (s : List Char) :
    plainLower (c :: s) = lowerChar c ++ plainLower s := List.flatMap_cons

@[simp] theorem plainLower_append (s t : List Char) :
    plainLower (s ++ t) = plainLower s ++ plainLower t := List.flatMap_append

/-! ## The two small sigmas -/

/-- Forgets that a sigma is a final one. -/
def unfinal (c : Char) : Char := if c = 'ς' then 'σ' else c

theorem lowerChar_sigma : lowerChar 'Σ' = ['σ'] := by decide

theorem unfinal_of_ascii {c : Char} (h : (unfinal c).toNat < 0x80) : unfinal c = c := by
  by_cases hc : c = 'ς'
  · subst hc
    exact absurd h (by decide)
  · exact if_neg hc

theorem unfinal_eq_self_of_ascii {c : Char} (h : c.toNat < 0x80) : unfinal c = c := by
  have hc : c ≠ 'ς' := by
    intro hc
    subst hc
    exact absurd h (by decide)
  exact if_neg hc

theorem map_unfinal_eq_self {s : List Char} (h : ∀ c ∈ s, unfinal c = c) : s.map unfinal = s :=
  (List.map_congr_left h).trans (List.map_id s)

/-- Up to the final sigma, lower-casing takes every character by itself, whatever stands before. -/
theorem map_unfinal_lowerAfter (before s : List Char) :
    (lowerAfter before s).map unfinal = (plainLower s).map unfinal := by
  induction s generalizing before with
  | nil => rfl
  | cons c rest ih =>
    by_cases hc : c = 'Σ'
    · have hsigma : ∀ b : Bool, unfinal (if b then 'ς' else 'σ') = unfinal 'σ' := by decide
      rw [lowerAfter, if_pos hc, List.map_cons, hsigma, ih, plainLower_cons, hc, lowerChar_sigma]
      rfl
    · rw [lowerAfter, if_neg hc, List.map_append, ih, plainLower_cons, List.map_append]

/-- ASCII characters are found in a text whether or not its final sigmas are told apart. -/
theorem infix_map_unfinal_iff {p : List Char} (hp : Ascii p) (s : List Char) :
    p <:+: s.map unfinal ↔ p <:+: s := by
  constructor
  · intro h
    rcases List.infix_map_iff.mp h with ⟨l, hl, hpl⟩
    have hself : l.map unfinal = l := map_unfinal_eq_self fun c hc =>
      unfinal_of_ascii (hp _ (by rw [hpl]; exact List.mem_map_of_mem hc))
    rw [hpl, hself]
    exact hl
  · intro h
    have hself : p.map unfinal = p :=
      map_unfinal_eq_self fun c hc => unfinal_eq_self_of_ascii (hp c hc)
    have hmap := h.map unfinal
    rwa [hself] at hmap

/-- **ASCII characters occur in the lower case of a text if and only if they occur in the lower
cases of its characters.** -/
theorem infix_lower_iff {p : List Char} (hp : Ascii p) (s : List Char) :
    p <:+: lower s ↔ p <:+: plainLower s := by
  rw [← infix_map_unfinal_iff hp (lower s), lower, map_unfinal_lowerAfter,
    infix_map_unfinal_iff hp]

/-! ## ASCII texts -/

theorem lowerChar_of_ascii {c : Char} (h : c.toNat < 0x80) : lowerChar c = [c.toLower] := if_pos h

theorem plainLower_of_ascii {s : List Char} (hs : Ascii s) : plainLower s = s.map Char.toLower := by
  induction s with
  | nil => rfl
  | cons c rest ih =>
    have hrest : Ascii rest := fun d hd => hs d (List.mem_cons_of_mem c hd)
    rw [plainLower_cons, lowerChar_of_ascii (hs c List.mem_cons_self), ih hrest]
    rfl

theorem lowerAfter_of_ascii {s : List Char} (hs : Ascii s) (before : List Char) :
    lowerAfter before s = plainLower s := by
  induction s generalizing before with
  | nil => rfl
  | cons c rest ih =>
    have hsigma : c ≠ 'Σ' := by
      intro hc
      subst hc
      exact absurd (hs _ List.mem_cons_self) (by decide)
    have hrest : Ascii rest := fun d hd => hs d (List.mem_cons_of_mem c hd)
    rw [lowerAfter, if_neg hsigma, ih hrest, plainLower_cons]

/-- The ASCII lower case changes ASCII letters only, and makes ASCII letters of them. -/
theorem toNat_toLower_lt_iff (c : Char) : c.toLower.toNat < 0x80 ↔ c.toNat < 0x80 := by
  by_cases h : c.val ≥ 'A'.val ∧ c.val ≤ 'Z'.val
  · have hle : c.toNat ≤ 90 := UInt32.le_iff_toNat_le.mp h.2
    have hval : c.toLower.val = c.val + ('a'.val - 'A'.val) := congrArg Char.val (dif_pos h)
    have hsum : c.toLower.toNat = c.toNat + 32 := by
      rw [Char.toNat, hval, UInt32.toNat_add]
      exact Nat.mod_eq_of_lt (show c.toNat + 32 < 2 ^ 32 by omega)
    omega
  · have hself : c.toLower = c := dif_neg h
    rw [hself]

/-- A text that differs from an ASCII text in the case of ASCII letters only has its lower case. -/
theorem plainLower_of_variant {s p : List Char} (hp : Ascii p)
    (h : s.map Char.toLower = p.map Char.toLower) : plainLower s = lower p := by
  have hs : Ascii s := by
    intro c hc
    have hmem : c.toLower ∈ p.map Char.toLower := by
      rw [← h]
      exact List.mem_map_of_mem hc
    rcases List.mem_map.mp hmem with ⟨d, hd, hdc⟩
    have hlt : d.toLower.toNat < 0x80 := (toNat_toLower_lt_iff d).mpr (hp d hd)
    rw [hdc] at hlt
    exact (toNat_toLower_lt_iff c).mp hlt
  rw [plainLower_of_ascii hs, h, ← plainLower_of_ascii hp, lower, lowerAfter_of_ascii hp]

/-! ## Decimal digits -/

theorem lowerChar_of_isDigit {c : Char} (h : c.isDigit = true) : lowerChar c = [c] := by
  have hbounds : '0'.toNat ≤ c.toNat ∧ c.toNat ≤ '9'.toNat := by
    simpa [Char.isDigit, UInt32.le_iff_toNat_le] using h
  have hnot : ¬ (c.val ≥ 'A'.val ∧ c.val ≤ 'Z'.val) := by
    intro hc
    have hge : 'A'.toNat ≤ c.toNat := UInt32.le_iff_toNat_le.mp hc.1
    exact absurd (Nat.le_trans hge hbounds.2) (by decide)
  have hascii : c.toNat < 0x80 := Nat.lt_of_le_of_lt hbounds.2 (by decide)
  have hself : c.toLower = c := dif_neg hnot
  rw [lowerChar_of_ascii hascii, hself]

theorem isDigit_of_mem_toString {n : Nat} {c : Char} (h : c ∈ (toString n).toList) :
    c.isDigit = true := by
  rw [Nat.toString_eq_ofList_toDigits, String.toList_ofList] at h
  exact Nat.isDigit_of_mem_toDigits (by decide) (by decide) h

/-- A number is its own lower case. -/
theorem plainLower_toString (n : Nat) : plainLower (toString n).toList = (toString n).toList := by
  have hdigits : ∀ c ∈ (toString n).toList, lowerChar c = [c] :=
    fun c hc => lowerChar_of_isDigit (isDigit_of_mem_toString hc)
  rw [plainLower, List.flatMap_congr hdigits]
  exact List.flatMap_singleton' _

end TxGateway.Text
