import TxGateway.Text.Utf8

namespace TxGateway.Text.Utf8

/-! # Bytes that are read back

What is written in UTF-8 is read as the same text. The bytes of a character are read as that
character, whatever follows them, so a text is read back character by character; only a byte-order
mark in front is lost.

* `scanOnto_encodeChar` is the step, with one case for each number of bytes.
* `decodeLossy_encode` says it of a text.
-/

/-! ## The bytes of a text -/

theorem loop_toList (bytes : ByteArray) (i : Nat) (acc : List UInt8) :
    ByteArray.toList.loop bytes i acc = acc.reverse ++ bytes.data.toList.drop i := by
  fun_induction ByteArray.toList.loop bytes i acc with
  | case1 i acc hlt ih =>
    have hlength : i < bytes.data.toList.length := hlt
    have hget : bytes.get! i = bytes.data[i] := getElem!_pos bytes.data i hlt
    rw [ih, List.drop_eq_getElem_cons hlength, hget, List.reverse_cons, List.append_assoc,
      List.singleton_append, Array.getElem_toList]
  | case2 i acc hge =>
    have hlength : bytes.data.toList.length ≤ i := Nat.le_of_not_lt hge
    rw [List.drop_eq_nil_of_le hlength, List.append_nil]

theorem encode_eq (s : String) : encode s = s.toList.flatMap String.utf8EncodeChar := by
  rw [encode, ByteArray.toList, loop_toList, String.toUTF8, ← String.utf8Encode_toList,
    List.utf8Encode, List.toList_data_toByteArray, List.reverse_nil, List.nil_append,
    List.drop_zero]

/-! ## The bytes of a character -/

theorem follow_of_ascii {b : UInt8} (h : b < 0x80) : follow b = none := by
  have hall : ∀ n < 0x80, follow (UInt8.ofNat n) = none := by decide
  have hb := hall b.toNat (UInt8.lt_iff_toNat_lt.mp h)
  rwa [UInt8.ofNat_toNat] at hb

theorem not_ascii_of_follow {b : UInt8} {m : Nat × UInt8 × UInt8} (h : follow b = some m) :
    ¬ b < 0x80 := by
  intro hascii
  rw [follow_of_ascii hascii] at h
  cases h

theorem follow_lead_two : ∀ n < 0x20, 2 ≤ n →
    follow (UInt8.ofNat (n + 0xC0)) = some (1, 0x80, 0xBF) := by decide

theorem follow_lead_three : ∀ n < 0x10, follow (UInt8.ofNat (n + 0xE0)) =
    some (2, if n = 0 then 0xA0 else 0x80, if n = 0xD then 0x9F else 0xBF) := by decide

theorem follow_lead_four : ∀ n < 5, follow (UInt8.ofNat (n + 0xF0)) =
    some (3, if n = 0 then 0x90 else 0x80, if n = 4 then 0x8F else 0xBF) := by decide

/-- The byte that continues a character with six bits. -/
def trail (n : Nat) : UInt8 := UInt8.ofNat (n + 0x80)

theorem toNat_trail {n : Nat} (h : n < 0x40) : (trail n).toNat = n + 0x80 := by
  rw [trail, UInt8.toNat_ofNat']
  omega

theorem payload_trail {n : Nat} (h : n < 0x40) : payload (trail n) = n := by
  rw [payload, toNat_trail h]
  omega

theorem isContinuation_trail : ∀ n < 0x40, isContinuation (trail n) = true := by decide

theorem within_trail_iff {n : Nat} (h : n < 0x40) {low high : UInt8} :
    (low ≤ trail n && trail n ≤ high) = true ↔ low.toNat ≤ n + 0x80 ∧ n + 0x80 ≤ high.toNat := by
  rw [Bool.and_eq_true, decide_eq_true_iff, decide_eq_true_iff, UInt8.le_iff_toNat_le,
    UInt8.le_iff_toNat_le, toNat_trail h]

/-! ## Reading a character -/

variable {acc : List (Option Char)} {c : Char} {b low high : UInt8} {i j k : Nat}
  {rest : List UInt8}

theorem scanOnto_one (hb : b < 0x80) (hc : Char.ofNat b.toNat = c) :
    scanOnto acc ([b] ++ rest) = scanOnto (some c :: acc) rest := by
  rw [scanOnto.eq_def, List.singleton_append]
  simp only [hb, if_true, hc]

theorem scanOnto_two (hb : follow b = some (1, low, high)) (hi : i < 0x40)
    (hlow : low.toNat ≤ i + 0x80) (hhigh : i + 0x80 ≤ high.toNat)
    (hc : Char.ofNat (b.toNat % 0x20 * 0x40 + i) = c) :
    scanOnto acc ([b, trail i] ++ rest) = scanOnto (some c :: acc) rest := by
  have hwithin := (within_trail_iff hi).mpr ⟨hlow, hhigh⟩
  rw [scanOnto.eq_def]
  simp [not_ascii_of_follow hb, hb, hwithin, payload_trail hi, hc]

theorem scanOnto_three (hb : follow b = some (2, low, high)) (hi : i < 0x40) (hj : j < 0x40)
    (hlow : low.toNat ≤ i + 0x80) (hhigh : i + 0x80 ≤ high.toNat)
    (hc : Char.ofNat ((b.toNat % 0x10 * 0x40 + i) * 0x40 + j) = c) :
    scanOnto acc ([b, trail i, trail j] ++ rest) = scanOnto (some c :: acc) rest := by
  have hwithin := (within_trail_iff hi).mpr ⟨hlow, hhigh⟩
  rw [scanOnto.eq_def]
  simp [not_ascii_of_follow hb, hb, hwithin, isContinuation_trail j hj, payload_trail hi,
    payload_trail hj, hc]

theorem scanOnto_four (hb : follow b = some (3, low, high)) (hi : i < 0x40) (hj : j < 0x40)
    (hk : k < 0x40) (hlow : low.toNat ≤ i + 0x80) (hhigh : i + 0x80 ≤ high.toNat)
    (hc : Char.ofNat (((b.toNat % 8 * 0x40 + i) * 0x40 + j) * 0x40 + k) = c) :
    scanOnto acc ([b, trail i, trail j, trail k] ++ rest) = scanOnto (some c :: acc) rest := by
  have hwithin := (within_trail_iff hi).mpr ⟨hlow, hhigh⟩
  rw [scanOnto.eq_def]
  simp [not_ascii_of_follow hb, hb, hwithin, isContinuation_trail j hj, isContinuation_trail k hk,
    payload_trail hi, payload_trail hj, payload_trail hk, hc]

/-- The bytes of a character are read as that character, whatever follows. -/
theorem scanOnto_encodeChar (acc : List (Option Char)) (c : Char) (rest : List UInt8) :
    scanOnto acc (String.utf8EncodeChar c ++ rest) = scanOnto (some c :: acc) rest := by
  have hread : ∀ {n}, n = c.toNat → Char.ofNat n = c := by
    rintro n rfl
    exact Char.ofNat_toNat c
  have hbounds : c.toNat < 0xD800 ∨ 0xDFFF < c.toNat ∧ c.toNat < 0x110000 := c.valid
  -- what is more than a byte is put together again from its six-bit parts
  fun_cases String.utf8EncodeChar c with
  | case1 v h1 =>
    have hbyte : (UInt8.ofNat v).toNat = v := by
      rw [UInt8.toNat_ofNat']
      omega
    refine scanOnto_one ?_ (hread hbyte)
    rw [UInt8.lt_iff_toNat_lt, hbyte]
    exact Nat.lt_succ_of_le h1
  | case2 v h1 h2 =>
    have hlead := follow_lead_two (v / 0x40 % 0x20) (by omega) (by omega)
    refine scanOnto_two hlead (by omega) ?_ ?_ (hread ?_)
    · exact Nat.le_add_left _ _
    · show v % 0x40 + 0x80 ≤ 0xBF
      omega
    · show _ = v
      rw [UInt8.toNat_ofNat']
      omega
  | case3 v h1 h2 h3 =>
    have hv : c.toNat = v := rfl
    rw [hv] at hbounds
    have hlead := follow_lead_three (v / 0x1000 % 0x10) (by omega)
    -- the bounds on the second byte are those of an overlong form and of the surrogates
    refine scanOnto_three hlead (by omega) (by omega) ?_ ?_ (hread ?_)
    · split
      · show 0xA0 ≤ v / 0x40 % 0x40 + 0x80
        omega
      · exact Nat.le_add_left _ _
    · split
      · show v / 0x40 % 0x40 + 0x80 ≤ 0x9F
        omega
      · show v / 0x40 % 0x40 + 0x80 ≤ 0xBF
        omega
    · rw [UInt8.toNat_ofNat', hv]
      omega
  | case4 v h1 h2 h3 =>
    have hv : c.toNat = v := rfl
    rw [hv] at hbounds
    have hlead := follow_lead_four (v / 0x40000 % 8) (by omega)
    -- here they are those of an overlong form and of the last code point
    refine scanOnto_four hlead (by omega) (by omega) (by omega) ?_ ?_ (hread ?_)
    · split
      · show 0x90 ≤ v / 0x1000 % 0x40 + 0x80
        omega
      · exact Nat.le_add_left _ _
    · split
      · show v / 0x1000 % 0x40 + 0x80 ≤ 0x8F
        omega
      · show v / 0x1000 % 0x40 + 0x80 ≤ 0xBF
        omega
    · rw [UInt8.toNat_ofNat', hv]
      omega

/-! ## Reading a text -/

theorem scanOnto_encodeChars (acc : List (Option Char)) (s : List Char) :
    scanOnto acc (s.flatMap String.utf8EncodeChar) = acc.reverse ++ s.map some := by
  induction s generalizing acc with
  | nil => simp [scanOnto]
  | cons c rest ih =>
    rw [List.flatMap_cons, scanOnto_encodeChar, ih, List.reverse_cons, List.append_assoc,
      List.singleton_append, List.map_cons]

theorem scan_encode (s : String) : scan (encode s) = s.toList.map some := by
  rw [scan, encode_eq, scanOnto_encodeChars, List.reverse_nil, List.nil_append]

/-- A text is read back from its bytes, if it does not begin with a byte-order mark. -/
theorem decodeLossy_encode {s : String} (h : s.toList.head? ≠ some '\uFEFF') :
    decodeLossy (encode s) = s := by
  have hchars : (s.toList.map some).map (·.getD '\uFFFD') = s.toList := by
    rw [List.map_map]
    exact List.map_id _
  rw [decodeLossy, scan_encode, hchars]
  split
  · next rest hs =>
    rw [hs] at h
    exact absurd rfl h
  · exact String.ofList_toList

end TxGateway.Text.Utf8
