import TxGateway.Merkle.Text
import TxGateway.Proofs.Text.Digits

namespace TxGateway.RootClaim

/-! # The grammar of written claims

A claim in text is a root in hexadecimal digits, a colon, and a height in decimal digits that may
have a plus sign. Reading accepts these texts and no others. It cuts at the last colon, which is the
only one that such a text has.

* `Spells` is the grammar.
* `parse_eq_ok_iff` says when reading succeeds, and with which claim; `parse_accepts_grammar` adds
  that what is written is read back.
-/

/-! ## The last colon -/

theorem cutAtLastColon?_eq_none_iff {s : List Char} : cutAtLastColon? s = none ↔ ':' ∉ s := by
  induction s with
  | nil => simp [cutAtLastColon?]
  | cons c rest ih =>
    rw [cutAtLastColon?, List.mem_cons, not_or, ← ih]
    cases cutAtLastColon? rest with
    | none => simp [eq_comm]
    | some cut => simp

theorem cutAtLastColon?_append {back : List Char} (h : ':' ∉ back) (front : List Char) :
    cutAtLastColon? (front ++ ':' :: back) = some (front, back) := by
  induction front with
  | nil => simp [cutAtLastColon?, cutAtLastColon?_eq_none_iff.mpr h]
  | cons c rest ih => rw [List.cons_append, cutAtLastColon?, ih]

theorem eq_of_cutAtLastColon? {s front back : List Char}
    (h : cutAtLastColon? s = some (front, back)) : s = front ++ ':' :: back := by
  induction s generalizing front with
  | nil => cases h
  | cons c rest ih =>
    rw [cutAtLastColon?] at h
    cases hrest : cutAtLastColon? rest with
    | none =>
      rw [hrest] at h
      by_cases hc : c = ':'
      · subst hc
        cases h
        rfl
      · simp [hc] at h
    | some cut =>
      rw [hrest] at h
      cases h
      rw [ih hrest]
      rfl

/-! ## Reading a claim -/

/-- The text is written as hexadecimal digits, a colon, a plus sign or nothing, and decimal digits. -/
structure Spells (hex sign digits : List Char) (s : String) : Prop where
  text : s.toList = hex ++ ':' :: (sign ++ digits)
  root : hex ≠ [] ∧ ∀ c ∈ hex, c ∈ Text.hexChars
  sign : sign = [] ∨ sign = ['+']
  height : Text.IsWord digits

variable {hex sign digits : List Char} {s : String}

/-- The height has no colon, so the one before it is the last. -/
theorem Spells.not_mem_colon (h : Spells hex sign digits s) : ':' ∉ sign ++ digits := by
  have hdigits : ':' ∉ digits := fun hmem => absurd (h.height.isDigit ':' hmem) (by decide)
  rw [List.mem_append, not_or]
  refine ⟨?_, hdigits⟩
  rcases h.sign with hsign | hsign <;> simp [hsign]

theorem parse_eq_ok_iff {s : String} {c : RootClaim} : parse s = .ok c ↔
    ∃ hex sign digits, Spells hex sign digits s ∧
      c = ⟨String.ofList hex, UInt64.ofNat (Nat.ofDigitChars 10 digits 0)⟩ := by
  constructor
  · intro h
    unfold parse at h
    split at h
    · cases h
    · next root height hcut =>
      simp only at h
      split at h
      · next hroot =>
        split at h
        · next n hn =>
          cases h
          obtain ⟨sign, digits, htext, hsign, hword, rfl⟩ := Text.readWord_eq_ok_iff.mp hn
          rw [Text.isHex_iff, String.toList_ofList] at hroot
          rw [String.toList_ofList] at htext
          refine ⟨root, sign, digits, ⟨?_, hroot, hsign, hword⟩, rfl⟩
          rw [eq_of_cutAtLastColon? hcut, htext]
        · cases h
      · cases h
  · rintro ⟨hex, sign, digits, h, rfl⟩
    have hcut : cutAtLastColon? s.toList = some (hex, sign ++ digits) := by
      rw [h.text]
      exact cutAtLastColon?_append h.not_mem_colon hex
    have hroot : Text.isHex (String.ofList hex) = true := by
      rw [Text.isHex_iff, String.toList_ofList]
      exact h.root
    have hheight : Text.readWord (String.ofList (sign ++ digits)) =
        .ok (UInt64.ofNat (Nat.ofDigitChars 10 digits 0)) :=
      Text.readWord_eq_ok_iff.mpr ⟨sign, digits, String.toList_ofList, h.sign, h.height, rfl⟩
    simp only [parse, hcut, hroot, hheight, if_true]

/-! ## Writing a claim -/

theorem written_eq (c : RootClaim) : c.written = c.root ++ ":" ++ toString c.height.toNat := rfl

theorem isWord_toDigits (n : UInt64) : Text.IsWord (Nat.toDigits 10 n.toNat) where
  ne_nil := Nat.toDigits_ne_nil
  isDigit _ hc := Nat.isDigit_of_mem_toDigits (by decide) (by decide) hc
  fits := by
    rw [Nat.ofDigitChars_ten_toDigits]
    exact n.toNat_lt

theorem spells_written {c : RootClaim} (hne : c.root ≠ "")
    (hhex : ∀ d ∈ c.root.toList, d ∈ Text.hexChars) :
    Spells c.root.toList [] (Nat.toDigits 10 c.height.toNat) c.written where
  text := by
    rw [written_eq, Nat.toString_eq_ofList_toDigits, String.toList_append, String.toList_append,
      String.toList_ofList, String.toList_ofList, List.append_assoc]
    rfl
  root := ⟨fun hnil => hne (String.toList_eq_nil_iff.mp hnil), hhex⟩
  sign := .inl rfl
  height := isWord_toDigits c.height

/-- **Reading accepts the written forms of claims and nothing else.** The root is taken as it is
written, and the height is the number that the digits spell, so long as a word holds it. What is
written of a claim with a hexadecimal root is read back. -/
theorem parse_accepts_grammar :
    (∀ (s : String) (c : RootClaim), parse s = .ok c ↔
      ∃ hex sign digits, Spells hex sign digits s ∧
        c = ⟨String.ofList hex, UInt64.ofNat (Nat.ofDigitChars 10 digits 0)⟩) ∧
    ∀ (root : String) (height : UInt64), root ≠ "" → (∀ d ∈ root.toList, d ∈ Text.hexChars) →
      parse (root ++ ":" ++ toString height.toNat) = .ok ⟨root, height⟩ := by
  refine ⟨fun s c => parse_eq_ok_iff, ?_⟩
  intro root height hne hhex
  refine parse_eq_ok_iff.mpr ⟨_, _, _, spells_written (c := ⟨root, height⟩) hne hhex, ?_⟩
  rw [String.ofList_toList, Nat.ofDigitChars_ten_toDigits, UInt64.ofNat_toNat]

/-- The greatest height there is, behind a root with digits of either case. -/
theorem greatest_height_read_back :
    "aB01" ≠ "" ∧ (∀ d ∈ "aB01".toList, d ∈ Text.hexChars) ∧
      parse ("aB01" ++ ":" ++ toString (18446744073709551615 : UInt64).toNat) =
        .ok ⟨"aB01", 18446744073709551615⟩ := by
  have hhex : ∀ d ∈ "aB01".toList, d ∈ Text.hexChars := (Text.isHex_iff.mp (by decide)).2
  exact ⟨by decide, hhex, parse_accepts_grammar.2 "aB01" _ (by decide) hhex⟩

end TxGateway.RootClaim
