import TxGateway.Document
import TxGateway.Text.Digits

namespace TxGateway.Document.Json

/-! # Reading JSON

A total reader of JSON texts. Nothing but blanks may follow the value, and arrays and objects may
lie at most `maxDepth` deep.

* `read?` reads a whole text.
* A number without fraction or exponent is an `integer`, except `-0`; every other one a `decimal`.
* A string that spells half of a surrogate pair is a `token`, so no record can hold it.

A text is read as a whole before anything is picked out of it. So members that nobody asks for count
towards the depth as others do, and half of a surrogate pair in a name within them makes the whole
text unreadable; a reader that skips such members may let the text pass.
-/

/-- How deep arrays and objects may lie in one another. -/
def maxDepth : Nat := 127

/-- The four characters that may stand between tokens. -/
def isSpace (c : Char) : Bool := c == ' ' || c == '\t' || c == '\n' || c == '\r'

def skipSpace (s : List Char) : List Char := s.dropWhile isSpace

/-! ## Strings -/

/-- The code unit that four hexadecimal digits spell. -/
def codeUnit? (a b c d : Char) : Option Nat := do
  let w ← Text.hexDigit? a
  let x ← Text.hexDigit? b
  let y ← Text.hexDigit? c
  let z ← Text.hexDigit? d
  return ((w * 16 + x) * 16 + y) * 16 + z

/-- The character of a one-letter escape. -/
def escape? : Char → Option Char
  | '"' => some '"'
  | '\\' => some '\\'
  | '/' => some '/'
  | 'b' => some '\x08'
  | 'f' => some '\x0c'
  | 'n' => some '\n'
  | 'r' => some '\r'
  | 't' => some '\t'
  | _ => none

def isHighSurrogate (n : Nat) : Bool := 0xD800 ≤ n && n ≤ 0xDBFF

def isLowSurrogate (n : Nat) : Bool := 0xDC00 ≤ n && n ≤ 0xDFFF

/-- The character of a surrogate pair. -/
def pairChar (high low : Nat) : Char :=
  Char.ofNat (0x10000 + (high - 0xD800) * 0x400 + (low - 0xDC00))

/-- Reads a string to its closing quote. `pending` is a high surrogate that waits for its partner,
`whole` tells that no half of a pair has been left alone, and `acc` holds the characters so far,
the last first. The text is `none` when a half stood alone. -/
def readString (pending : Option Nat) (whole : Bool) (acc : List Char) :
    List Char → Option (Option String × List Char)
  | [] => none
  | '"' :: rest =>
    some (if whole && pending.isNone then some (String.ofList acc.reverse) else none, rest)
  | '\\' :: 'u' :: a :: b :: c :: d :: rest =>
    match codeUnit? a b c d with
    | none => none
    | some n =>
      if isHighSurrogate n then readString (some n) (whole && pending.isNone) acc rest
      else if isLowSurrogate n then
        match pending with
        | some high => readString none whole (pairChar high n :: acc) rest
        | none => readString none false acc rest
      else readString none (whole && pending.isNone) (Char.ofNat n :: acc) rest
  | '\\' :: e :: rest =>
    match escape? e with
    | none => none
    | some c => readString none (whole && pending.isNone) (c :: acc) rest
  | c :: rest =>
    if c = '\\' ∨ c.toNat < 0x20 then none
    else readString none (whole && pending.isNone) (c :: acc) rest

/-! ## Numbers -/

/-- Splits off the decimal digits in front. -/
def spanDigits (s : List Char) : List Char × List Char :=
  (s.takeWhile Char.isDigit, s.dropWhile Char.isDigit)

/-- The number that decimal digits spell. -/
def digitsValue (digits : List Char) : Nat :=
  digits.foldl (fun n c => n * 10 + (c.toNat - '0'.toNat)) 0

/-- The digits before the point: one zero, or digits that do not begin with one. -/
def readWhole? (s : List Char) : Option (List Char × List Char) :=
  match s with
  | '0' :: rest => some (['0'], rest)
  | s =>
    match spanDigits s with
    | ([], _) => none
    | (digits, rest) => some (digits, rest)

/-- The digits after the point, `none` inside if there is no point. -/
def readFraction? : List Char → Option (Option (List Char) × List Char)
  | '.' :: rest =>
    match spanDigits rest with
    | ([], _) => none
    | (digits, rest) => some (some digits, rest)
  | s => some (none, s)

/-- The digits of an exponent after its mark, with an optional sign. -/
def readExponentDigits? (s : List Char) : Option (Int × List Char) :=
  let (negative, rest) := match s with
    | '-' :: rest => (true, rest)
    | '+' :: rest => (false, rest)
    | s => (false, s)
  match spanDigits rest with
  | ([], _) => none
  | (digits, rest) =>
    let n : Int := digitsValue digits
    some (if negative then -n else n, rest)

/-- The exponent, `none` inside if there is none. -/
def readExponent? : List Char → Option (Option Int × List Char)
  | c :: rest =>
    if c = 'e' ∨ c = 'E' then (readExponentDigits? rest).map fun (n, rest) => (some n, rest)
    else some (none, c :: rest)
  | [] => some (none, [])

/-- Reads a number after its sign. -/
def readUnsigned? (negative : Bool) (s : List Char) : Option (Document × List Char) := do
  let (whole, s) ← readWhole? s
  let (fraction, s) ← readFraction? s
  let (exponent, s) ← readExponent? s
  match fraction, exponent with
  | none, none =>
    let n := digitsValue whole
    let value : Document :=
      if negative then (if n = 0 then .decimal ⟨true, 0, 0⟩ else .integer (-n)) else .integer n
    return (value, s)
  | fraction, exponent =>
    let after := fraction.getD []
    return (.decimal ⟨negative, digitsValue (whole ++ after), exponent.getD 0 - after.length⟩, s)

def readNumber? : List Char → Option (Document × List Char)
  | '-' :: rest => readUnsigned? true rest
  | s => readUnsigned? false s

/-! ## Values -/

/-- Reads a value that holds no other. -/
def readScalar? : List Char → Option (Document × List Char)
  | 'n' :: 'u' :: 'l' :: 'l' :: rest => some (.null, rest)
  | 't' :: 'r' :: 'u' :: 'e' :: rest => some (.bool true, rest)
  | 'f' :: 'a' :: 'l' :: 's' :: 'e' :: rest => some (.bool false, rest)
  | '"' :: rest =>
    match readString none true [] rest with
    | some (some s, rest) => some (.text s, rest)
    | some (none, rest) => some (.token "", rest)
    | none => none
  | s => readNumber? s

/-- Reads the items of an array up to its bracket, each by `value?`. The fuel bounds the number of
items; the length of the text is enough. -/
def readItems? (value? : List Char → Option (Document × List Char)) :
    Nat → List Document → List Char → Option (Document × List Char)
  | 0, _, _ => none
  | fuel + 1, acc, s =>
    match value? s with
    | none => none
    | some (x, rest) =>
      match skipSpace rest with
      | ',' :: rest => readItems? value? fuel (x :: acc) rest
      | ']' :: rest => some (.list (x :: acc).reverse, rest)
      | _ => none

/-- Reads the members of an object up to its brace, each value by `value?`. The fuel bounds the
number of members; the length of the text is enough. -/
def readMembers? (value? : List Char → Option (Document × List Char)) :
    Nat → List (String × Document) → List Char → Option (Document × List Char)
  | 0, _, _ => none
  | fuel + 1, acc, s =>
    match skipSpace s with
    | '"' :: rest =>
      match readString none true [] rest with
      | some (some name, rest) =>
        match skipSpace rest with
        | ':' :: rest =>
          match value? rest with
          | none => none
          | some (x, rest) =>
            match skipSpace rest with
            | ',' :: rest => readMembers? value? fuel ((name, x) :: acc) rest
            | '\x7d' :: rest => some (.record ((name, x) :: acc).reverse, rest)
            | _ => none
        | _ => none
      | _ => none
    | _ => none

/-- Reads a value in which arrays and objects lie at most `depth` deep. -/
def readValue? : (depth : Nat) → List Char → Option (Document × List Char)
  | 0, s => readScalar? (skipSpace s)
  | depth + 1, s =>
    match skipSpace s with
    | '[' :: rest =>
      match skipSpace rest with
      | ']' :: rest => some (.list [], rest)
      | rest => readItems? (readValue? depth) rest.length [] rest
    | '\x7b' :: rest =>
      match skipSpace rest with
      | '\x7d' :: rest => some (.record [], rest)
      | rest => readMembers? (readValue? depth) rest.length [] rest
    | s => readScalar? s

/-- Reads a JSON text. -/
def read? (s : String) : Option Document :=
  match readValue? maxDepth s.toList with
  | some (d, rest) => if (skipSpace rest).isEmpty then some d else none
  | none => none

end TxGateway.Document.Json
