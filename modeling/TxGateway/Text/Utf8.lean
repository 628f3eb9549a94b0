namespace TxGateway.Text

/-! # UTF-8

Reading bytes as UTF-8. Ill-formed bytes are grouped by maximal subparts: as many bytes as begin
some well-formed character stand together, and each group counts once.

* `Utf8.scan` yields one entry a character and `none` for each ill-formed group.
* `Utf8.decode?` accepts well-formed bytes only, `Utf8.decodeLossy` puts U+FFFD for each group and
  drops a leading byte-order mark.
-/

/-- The length of a text in UTF-8 bytes. -/
abbrev byteLength (s : String) : Nat := s.utf8ByteSize

namespace Utf8

/-- A byte that continues a character. -/
def isContinuation (b : UInt8) : Bool := 0x80 ≤ b && b ≤ 0xBF

/-- The payload bits of a continuation byte. -/
def payload (b : UInt8) : Nat := b.toNat % 0x40

/-- The bytes that may follow a lead byte: how many more there are, and the range of the first. -/
def follow (b : UInt8) : Option (Nat × UInt8 × UInt8) :=
  if 0xC2 ≤ b && b ≤ 0xDF then some (1, 0x80, 0xBF)
  else if b == 0xE0 then some (2, 0xA0, 0xBF)
  else if b == 0xED then some (2, 0x80, 0x9F)
  else if 0xE1 ≤ b && b ≤ 0xEF then some (2, 0x80, 0xBF)
  else if b == 0xF0 then some (3, 0x90, 0xBF)
  else if 0xF1 ≤ b && b ≤ 0xF3 then some (3, 0x80, 0xBF)
  else if b == 0xF4 then some (3, 0x80, 0x8F)
  else none

/-- Reads bytes to the end. `acc` holds what has been read, the last first. -/
def scanOnto (acc : List (Option Char)) : List UInt8 → List (Option Char)
  | [] => acc.reverse
  | b :: rest =>
    if b < 0x80 then scanOnto (some (Char.ofNat b.toNat) :: acc) rest
    else
      match follow b, rest with
      | some (more, low, high), c :: rest₁ =>
        if !(low ≤ c && c ≤ high) then scanOnto (none :: acc) (c :: rest₁)
        else if more == 1 then
          scanOnto (some (Char.ofNat (b.toNat % 0x20 * 0x40 + payload c)) :: acc) rest₁
        else
          match rest₁ with
          | [] => scanOnto (none :: acc) []
          | d :: rest₂ =>
            if !isContinuation d then scanOnto (none :: acc) (d :: rest₂)
            else if more == 2 then
              scanOnto (some (Char.ofNat
                ((b.toNat % 0x10 * 0x40 + payload c) * 0x40 + payload d)) :: acc) rest₂
            else
              match rest₂ with
              | [] => scanOnto (none :: acc) []
              | e :: rest₃ =>
                if !isContinuation e then scanOnto (none :: acc) (e :: rest₃)
                else
                  scanOnto (some (Char.ofNat
                    (((b.toNat % 8 * 0x40 + payload c) * 0x40 + payload d) * 0x40 + payload e))
                      :: acc) rest₃
      | _, rest => scanOnto (none :: acc) rest

/-- The characters that bytes spell, `none` for each ill-formed group. -/
def scan (bytes : List UInt8) : List (Option Char) := scanOnto [] bytes

/-- The text of well-formed bytes. -/
def decode? (bytes : List UInt8) : Option String :=
  let chars := scan bytes
  if chars.all Option.isSome then some (String.ofList (chars.filterMap id)) else none

/-- The text of any bytes: U+FFFD stands for what is ill-formed, and a byte-order mark in front is
left out. -/
def decodeLossy (bytes : List UInt8) : String :=
  let chars := (scan bytes).map (·.getD '\uFFFD')
  String.ofList (match chars with
    | '\uFEFF' :: rest => rest
    | chars => chars)

/-- The bytes of a text. -/
def encode (s : String) : List UInt8 := s.toUTF8.toList

end Utf8

end TxGateway.Text
