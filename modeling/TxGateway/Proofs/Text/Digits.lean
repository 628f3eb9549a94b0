import Mathlib.Data.List.Basic
import TxGateway.Text.Digits

namespace TxGateway.Text

/-! # What numbers and digits are read as

Reading goes from the left and stops at the first character that is no digit, or that makes the
number too large. Whether it succeeds can be told from the text as a whole.

* `isHex_iff` lists the digits of hexadecimal text.
* `readDigits_eq_ok_iff`: all characters are digits, and their value fits into a word.
* `readWord_eq_ok_iff` has an optional plus sign before them.
-/

/-! ## Hexadecimal digits -/

/-- The ASCII hexadecimal digits of either case. -/
def hexChars : List Char := "0123456789abcdefABCDEF".toList

theorem toNat_lt_of_hexDigit {c : Char} (h : (hexDigit? c).isSome = true) :
    c.toNat < 0x80 := by
  have hle : ∀ top : Char, top.toNat < 0x80 → c ≤ top → c.toNat < 0x80 :=
    fun top htop hc => Nat.lt_of_le_of_lt hc htop
  unfold hexDigit? at h
  split at h
  · next hc => exact hle '9' (by decide) hc.2
  · split at h
    · next hc => exact hle 'f' (by decide) hc.2
    · split at h
      · next hc => exact hle 'F' (by decide) hc.2
      · cases h

theorem isSome_hexDigit?_iff {c : Char} : (hexDigit? c).isSome = true ↔ c ∈ hexChars := by
  constructor
  · intro h
    have hall : ∀ n < 0x80, (hexDigit? (Char.ofNat n)).isSome = true →
        Char.ofNat n ∈ hexChars := by decide
    have hc := hall c.toNat (toNat_lt_of_hexDigit h)
    rw [Char.ofNat_toNat] at hc
    exact hc h
  · have hall : hexChars.all (fun d => (hexDigit? d).isSome) = true := by decide
    exact List.all_eq_true.mp hall c

theorem isHex_iff {s : String} : isHex s = true ↔ s.toList ≠ [] ∧ ∀ c ∈ s.toList, c ∈ hexChars := by
  simp [isHex, isSome_hexDigit?_iff]

/-! ## Decimal digits -/

theorem digit?_eq_some_iff {c : Char} {d : Nat} :
    digit? c = some d ↔ c.isDigit = true ∧ c.toNat - '0'.toNat = d := by
  have hdigit : ('0' ≤ c ∧ c ≤ '9') ↔ c.isDigit = true := by
    simp [Char.isDigit, Char.le_def]
  unfold digit?
  by_cases h : '0' ≤ c ∧ c ≤ '9'
  · simp [h, hdigit.mp h]
  · simp [h, hdigit.not.mp h]

/-- Further digits do not make a number smaller. -/
theorem le_ofDigitChars (digits : List Char) (value : Nat) :
    value ≤ Nat.ofDigitChars 10 digits value := by
  rw [Nat.ofDigitChars_eq_ofDigitChars_zero]
  exact Nat.le_add_right_of_le (Nat.le_mul_of_pos_left value (Nat.pow_pos (by decide)))

theorem readDigits_eq_ok_iff {digits : List Char} {value n : Nat} (h : value < Word.bound) :
    readDigits value digits = .ok n ↔
      (∀ c ∈ digits, c.isDigit = true) ∧ Nat.ofDigitChars 10 digits value = n ∧ n < Word.bound := by
  induction digits generalizing value with
  | nil =>
    simp only [readDigits, Except.ok.injEq, List.not_mem_nil, Nat.ofDigitChars_nil]
    constructor
    · rintro rfl
      exact ⟨nofun, rfl, h⟩
    · rintro ⟨-, hn, -⟩
      exact hn
  | cons c rest ih =>
    rw [readDigits, List.forall_mem_cons, Nat.ofDigitChars_cons, Nat.mul_comm 10 value]
    cases hc : digit? c with
    | none =>
      have hnone : ¬ c.isDigit = true := fun hdigit => by
        simpa [hc] using digit?_eq_some_iff.mpr ⟨hdigit, rfl⟩
      simp [hnone]
    | some d =>
      obtain ⟨hdigit, rfl⟩ := digit?_eq_some_iff.mp hc
      by_cases hfits : value * 10 + (c.toNat - '0'.toNat) < Word.bound
      · simp only [hfits, if_true, ih hfits, hdigit, true_and]
      · -- the digits that follow cannot bring the number back below the bound
        have hlarge := le_ofDigitChars rest (value * 10 + (c.toNat - '0'.toNat))
        simp only [hfits, if_false]
        constructor
        · nofun
        · rintro ⟨-, rfl, hn⟩
          exact absurd (Nat.lt_of_le_of_lt hlarge hn) hfits

/-- One or more decimal digits whose value fits into a word. -/
structure IsWord (digits : List Char) : Prop where
  ne_nil : digits ≠ []
  isDigit : ∀ c ∈ digits, c.isDigit = true
  fits : Nat.ofDigitChars 10 digits 0 < Word.bound

theorem IsWord.not_sign {digits : List Char} (h : IsWord digits) (rest : List Char) :
    digits ≠ '+' :: rest := by
  rintro rfl
  exact absurd (h.isDigit '+' List.mem_cons_self) (by decide)

theorem map_readDigits_eq_ok_iff {digits : List Char} (hne : digits ≠ []) {n : UInt64} :
    (readDigits 0 digits).map UInt64.ofNat = .ok n ↔
      IsWord digits ∧ n = UInt64.ofNat (Nat.ofDigitChars 10 digits 0) := by
  have hmap : (readDigits 0 digits).map UInt64.ofNat = .ok n ↔
      ∃ m, readDigits 0 digits = .ok m ∧ UInt64.ofNat m = n := by
    cases readDigits 0 digits <;> simp [Except.map]
  rw [hmap]
  constructor
  · rintro ⟨m, hm, rfl⟩
    obtain ⟨hdigits, rfl, hfits⟩ := (readDigits_eq_ok_iff (by decide)).mp hm
    exact ⟨⟨hne, hdigits, hfits⟩, rfl⟩
  · rintro ⟨hword, rfl⟩
    exact ⟨_, (readDigits_eq_ok_iff (by decide)).mpr ⟨hword.isDigit, rfl, hword.fits⟩, rfl⟩

/-- Reading a word takes a plus sign off the front, if there is one, and reads the rest. -/
theorem readWord_eq_ok_iff {s : String} {n : UInt64} :
    readWord s = .ok n ↔ ∃ sign digits, s.toList = sign ++ digits ∧ (sign = [] ∨ sign = ['+']) ∧
      IsWord digits ∧ n = UInt64.ofNat (Nat.ofDigitChars 10 digits 0) := by
  unfold readWord
  split
  · next hs =>
    constructor
    · nofun
    · rintro ⟨sign, digits, htext, -, hword, -⟩
      rw [hs] at htext
      exact absurd (List.append_eq_nil_iff.mp htext.symm).2 hword.ne_nil
  · next hs =>
    constructor
    · nofun
    · rintro ⟨sign, digits, htext, rfl | rfl, hword, -⟩
      · exact absurd (htext.symm.trans hs) (hword.not_sign [])
      · exact absurd (List.cons.inj (htext.symm.trans hs)).2 hword.ne_nil
  · next digits hne hs =>
    rw [map_readDigits_eq_ok_iff hne]
    constructor
    · rintro ⟨hword, hn⟩
      exact ⟨['+'], digits, hs, .inr rfl, hword, hn⟩
    · rintro ⟨sign, digits', htext, rfl | rfl, hword, hn⟩
      · exact absurd (htext.symm.trans hs) (hword.not_sign digits)
      · obtain ⟨-, rfl⟩ := List.cons.inj (htext.symm.trans hs)
        exact ⟨hword, hn⟩
  · next digits hnil _ hsign =>
    rw [map_readDigits_eq_ok_iff hnil]
    constructor
    · rintro ⟨hword, hn⟩
      exact ⟨[], s.toList, rfl, .inl rfl, hword, hn⟩
    · rintro ⟨sign, digits', htext, rfl | rfl, hword, hn⟩
      · rw [htext]
        exact ⟨hword, hn⟩
      · exact absurd htext (hsign digits')

end TxGateway.Text
