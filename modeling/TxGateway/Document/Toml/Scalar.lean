import TxGateway.Document.Toml.Strings
import TxGateway.Timestamp
import TxGateway.Word

namespace TxGateway.Document.Toml

/-! # Numbers, dates and truth values of TOML

A scalar other than a string is a run of characters up to the next blank or separator; a date may be
joined to a time by a blank. `scalar?` tells what such a run is.

* Digits may be grouped by single underscores, which stand between two digits.
* An integer has sixty-four bits, with or without a sign.
* Dates, times and numbers that are not finite become tokens.
-/

/-! ## Numbers -/

/-- The digits of a run in which single underscores may stand between two of them. -/
def ungroup? (isDigit : Char → Bool) : List Char → Option (List Char)
  | [] => none
  | [c] => if isDigit c then some [c] else none
  | c :: '_' :: rest => if isDigit c then (ungroup? isDigit rest).map (c :: ·) else none
  | c :: rest => if isDigit c then (ungroup? isDigit rest).map (c :: ·) else none

/-- The digits of a decimal number before the point, which has no zero in front. -/
def wholeDigits? (s : List Char) : Option (List Char) :=
  match ungroup? Char.isDigit s with
  | some ['0'] => some ['0']
  | some ('0' :: _) => none
  | digits => digits

/-- An integer, if some word can hold it. -/
def word? (n : Int) : Option Document :=
  if Word.isEither n then some (.integer n) else none

/-- The sign in front of a number, and what follows. -/
def sign : List Char → Bool × List Char
  | '-' :: rest => (true, rest)
  | '+' :: rest => (false, rest)
  | s => (false, s)

/-- An integer in base sixteen, eight or two, or a decimal one with an optional sign. -/
def integer? (s : List Char) : Option Document := do
  let based (base : Nat) (digits : List Char) : Option Document := do
    let n ← Text.readBase base (← ungroup? (fun c => (Text.hexDigit? c).isSome) digits)
    word? n
  match s with
  | '0' :: 'x' :: digits => based 16 digits
  | '0' :: 'o' :: digits => based 8 digits
  | '0' :: 'b' :: digits => based 2 digits
  | s =>
    let (negative, digits) := sign s
    let n : Int := ← Text.readBase 10 (← wholeDigits? digits)
    word? (if negative then -n else n)

/-- A number with a fraction, an exponent or both. -/
def decimal? (s : List Char) : Option Document := do
  let (negative, s) := sign s
  let isMark (c : Char) : Bool := c == 'e' || c == 'E'
  let mantissa := s.takeWhile fun c => !isMark c
  let exponent ← match s.dropWhile fun c => !isMark c with
    | [] => some 0
    | _ :: rest =>
      let (negative, digits) := sign rest
      let n : Int := ← Text.readBase 10 (← ungroup? Char.isDigit digits)
      some (if negative then -n else n)
  let whole ← wholeDigits? (mantissa.takeWhile (· != '.'))
  let fraction ← match mantissa.dropWhile (· != '.') with
    | [] => some []
    | _ :: rest => ungroup? Char.isDigit rest
  let digits ← Text.readBase 10 (whole ++ fraction)
  return .decimal ⟨negative, digits, exponent - fraction.length⟩

/-- A number that is not finite. -/
def special? (s : List Char) : Option Document :=
  match (sign s).2 with
  | ['i', 'n', 'f'] | ['n', 'a', 'n'] => some (.token (String.ofList s))
  | _ => none

/-! ## Dates and times -/

/-- The number of exactly two digits. -/
def twoDigits? (a b : Char) : Option Nat := do
  return (← Text.digit? a) * 10 + (← Text.digit? b)

/-- The rest after a date. -/
def date? : List Char → Option (List Char)
  | a :: b :: c :: d :: '-' :: e :: f :: '-' :: g :: h :: rest => do
    let day : Day :=
      ⟨(← twoDigits? a b) * 100 + (← twoDigits? c d), ← twoDigits? e f, ← twoDigits? g h⟩
    if day.isValid then some rest else none
  | _ => none

/-- The rest after the fraction of a second. -/
def fraction? : List Char → Option (List Char)
  | '.' :: s => if (s.takeWhile Char.isDigit).isEmpty then none else some (s.dropWhile Char.isDigit)
  | s => some s

/-- The rest after a time of day. -/
def time? : List Char → Option (List Char)
  | a :: b :: ':' :: c :: d :: ':' :: e :: f :: rest => do
    let hour ← twoDigits? a b
    let minute ← twoDigits? c d
    let second ← twoDigits? e f
    if hour < 24 ∧ minute < 60 ∧ second ≤ 60 then fraction? rest else none
  | _ => none

/-- Whether a run is an offset from Coordinated Universal Time. -/
def isOffset : List Char → Bool
  | ['Z'] | ['z'] => true
  | [s, a, b, ':', c, d] =>
    (s == '+' || s == '-') &&
      (twoDigits? a b).any (· < 24) && (twoDigits? c d).any (· < 60)
  | _ => false

/-- Whether a run is what may follow a date: nothing, or a time with or without an offset. -/
def isTimePart : List Char → Bool
  | [] => true
  | c :: rest =>
    (c == 'T' || c == 't' || c == ' ') &&
      match time? rest with
      | some rest => rest.isEmpty || isOffset rest
      | none => false

/-- A date, a time or both. -/
def moment? (s : List Char) : Option Document :=
  let isMoment := match date? s with
    | some rest => isTimePart rest
    | none => (time? s).any List.isEmpty
  if isMoment then some (.token (String.ofList s)) else none

/-! ## Scalars -/

def truth? : List Char → Option Document
  | ['t', 'r', 'u', 'e'] => some (.bool true)
  | ['f', 'a', 'l', 's', 'e'] => some (.bool false)
  | _ => none

/-- What a run of characters is. -/
def scalar? (s : List Char) : Option Document :=
  truth? s <|> integer? s <|> decimal? s <|> special? s <|> moment? s

/-- A character that cannot end a scalar. -/
def isInScalar (c : Char) : Bool :=
  !(isSpace c || c == '\n' || c == '\r' || c == ',' || c == ']' || c == '\x7d' || c == '#')

/-- Reads a scalar other than a string. -/
def readScalar? (s : List Char) : Option (Document × List Char) :=
  let run := s.takeWhile isInScalar
  let rest := s.dropWhile isInScalar
  match date? run, rest with
  | some [], ' ' :: c :: more =>
    if c.isDigit then
      let time := (c :: more).takeWhile isInScalar
      (scalar? (run ++ ' ' :: time)).map fun d => (d, (c :: more).dropWhile isInScalar)
    else (scalar? run).map fun d => (d, rest)
  | _, _ => (scalar? run).map fun d => (d, rest)

end TxGateway.Document.Toml
