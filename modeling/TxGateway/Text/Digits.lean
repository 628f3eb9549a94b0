import TxGateway.Word

namespace TxGateway.Text

/-! # Numbers and digits in text

Reading unsigned numbers of sixty-four bits, and the class of hexadecimal text.

* `readWord` reads decimal digits with an optional plus sign; `DigitsError` is why it fails. A text
  is read from the left, so an overflow wins over a bad digit that comes after it.
* `isHex` holds of one or more ASCII hexadecimal digits.
-/

/-- Why a text is no unsigned number of sixty-four bits. -/
inductive DigitsError where
  | empty
  | invalidDigit
  | tooLarge
deriving DecidableEq, Repr

def DigitsError.message : DigitsError → String
  | .empty => "cannot parse integer from empty string"
  | .invalidDigit => "invalid digit found in string"
  | .tooLarge => "number too large to fit in target type"

/-- The value of an ASCII decimal digit. -/
def digit? (c : Char) : Option Nat :=
  if '0' ≤ c ∧ c ≤ '9' then some (c.toNat - '0'.toNat) else none

/-- Reads the digits that follow the number `value`. -/
def readDigits (value : Nat) : List Char → Except DigitsError Nat
  | [] => .ok value
  | c :: rest =>
    match digit? c with
    | none => .error .invalidDigit
    | some d =>
      if value * 10 + d < Word.bound then readDigits (value * 10 + d) rest else .error .tooLarge

/-- Reads an unsigned number of sixty-four bits: an optional plus sign, then one or more ASCII
digits. -/
def readWord (s : String) : Except DigitsError UInt64 :=
  match s.toList with
  | [] => .error .empty
  | ['+'] => .error .invalidDigit
  | '+' :: digits => (readDigits 0 digits).map UInt64.ofNat
  | digits => (readDigits 0 digits).map UInt64.ofNat

/-- The value of an ASCII hexadecimal digit, of either case. -/
def hexDigit? (c : Char) : Option Nat :=
  if '0' ≤ c ∧ c ≤ '9' then some (c.toNat - '0'.toNat)
  else if 'a' ≤ c ∧ c ≤ 'f' then some (c.toNat - 'a'.toNat + 10)
  else if 'A' ≤ c ∧ c ≤ 'F' then some (c.toNat - 'A'.toNat + 10)
  else none

/-- One or more ASCII hexadecimal digits. -/
def isHex (s : String) : Bool :=
  !s.isEmpty && s.toList.all fun c => (hexDigit? c).isSome

/-- The number that digits of a base up to sixteen spell, `none` if one of them is no digit of the
base. -/
def readBase (base : Nat) (digits : List Char) : Option Nat :=
  digits.foldlM (fun value c =>
    match hexDigit? c with
    | some d => if d < base then some (value * base + d) else none
    | none => none) 0

/-- The bytes that pairs of hexadecimal digits spell. -/
def readHexBytes : List Char → Option (List UInt8)
  | [] => some []
  | [_] => none
  | a :: b :: rest => do
    let high ← hexDigit? a
    let low ← hexDigit? b
    let bytes ← readHexBytes rest
    return UInt8.ofNat (high * 16 + low) :: bytes

end TxGateway.Text
