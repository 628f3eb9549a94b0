import TxGateway.Document.Record
import TxGateway.Text.Blank
import TxGateway.Text.Digits
import TxGateway.Timestamp

namespace TxGateway.Timestamp

/-! # Reading points in time

RFC 3339 with some latitude. Blanks may stand before a number, before a separator and before the
offset; numbers may lack their leading zeros; a year with a sign may have any number of digits; the
offset may be the word `UTC`; and digits of the second beyond the ninth are passed over.
-/

def skipBlanks (s : List Char) : List Char := s.dropWhile Text.isBlank

/-- The number that decimal digits spell. -/
def digitsValue (digits : List Char) : Nat :=
  digits.foldl (fun n c => n * 10 + (c.toNat - '0'.toNat)) 0

/-- A number of one digit up to `width` digits; further digits are left. -/
def number? (width : Nat) (s : List Char) : Option (Nat × List Char) :=
  let digits := (s.takeWhile Char.isDigit).take width
  if digits.isEmpty then none else some (digitsValue digits, s.drop digits.length)

/-- A number of any length. -/
def longNumber? (s : List Char) : Option (Nat × List Char) := number? s.length s

/-- A year: up to four digits, or a sign and any number of digits. -/
def year? (s : List Char) : Option (Int × List Char) :=
  match skipBlanks s with
  | '-' :: rest => (longNumber? rest).map fun (n, rest) => (-(n : Int), rest)
  | '+' :: rest => (longNumber? rest).map fun (n, rest) => ((n : Int), rest)
  | s => (number? 4 s).map fun (n, rest) => ((n : Int), rest)

/-- A number of up to two digits after blanks. -/
def twoDigits? (s : List Char) : Option (Nat × List Char) := number? 2 (skipBlanks s)

/-- The separator `c` after blanks. -/
def separator? (c : Char) (s : List Char) : Option (List Char) :=
  match skipBlanks s with
  | d :: rest => if d = c then some rest else none
  | [] => none

/-- The day in front of a text. -/
def day? (s : List Char) : Option (Day × List Char) := do
  let (year, s) ← year? s
  let s ← separator? '-' s
  let (month, s) ← twoDigits? s
  let s ← separator? '-' s
  let (day, s) ← twoDigits? s
  let d : Day := ⟨year, month, day⟩
  if d.isValid then some (d, s) else none

/-- The nanoseconds after a point, none if there is no point. -/
def fraction? : List Char → Option (Nat × List Char)
  | '.' :: s =>
    let digits := (s.takeWhile Char.isDigit).take 9
    if digits.isEmpty then none
    else some (digitsValue digits * Nat.pow 10 (9 - digits.length), s.dropWhile Char.isDigit)
  | s => some (0, s)

/-- The time of day in front of a text, on the given day. -/
def timeOn? (date : Day) (s : List Char) : Option (Timestamp × List Char) := do
  let (hour, s) ← twoDigits? s
  let s ← separator? ':' s
  let (minute, s) ← twoDigits? s
  let s ← separator? ':' s
  let (second, s) ← twoDigits? s
  let (nanosecond, s) ← fraction? s
  if hour < 24 ∧ minute < 60 ∧ second ≤ 60 then
    some (⟨date, hour, minute, second, nanosecond⟩, s)
  else none

/-- The minutes of an offset after its sign: two digits of hours, two digits of minutes, colons and
blanks between them. -/
def offsetMinutes? : List Char → Option (Nat × List Char)
  | a :: b :: s =>
    match Text.digit? a, Text.digit? b, s.dropWhile fun c => c == ':' || Text.isBlank c with
    | some h, some i, c :: d :: s =>
      match Text.digit? c, Text.digit? d with
      | some m, some n =>
        if m * 10 + n < 60 then some ((h * 10 + i) * 60 + m * 10 + n, s) else none
      | _, _ => none
    | _, _, _ => none
  | _ => none

/-- The offset from Coordinated Universal Time, in minutes. -/
def offset? (s : List Char) : Option (Int × List Char) :=
  match s with
  | 'Z' :: rest | 'z' :: rest => some (0, rest)
  | u :: t :: c :: rest =>
    if u.toLower = 'u' ∧ t.toLower = 't' ∧ c.toLower = 'c' then some (0, rest)
    else if u = '+' then (offsetMinutes? (t :: c :: rest)).map fun (n, s) => ((n : Int), s)
    else if u = '-' ∨ u = '−' then
      (offsetMinutes? (t :: c :: rest)).map fun (n, s) => (-(n : Int), s)
    else none
  | _ => none

/-- Reads a point in time. -/
def read? (s : String) : Option Timestamp := do
  let (date, s) ← day? s.toList
  let s ← match s with
    | 'T' :: rest | 't' :: rest | ' ' :: rest => some rest
    | _ => none
  let (t, s) ← timeOn? date s
  let (offset, s) ← offset? (skipBlanks s)
  let t := t.behind offset
  if (skipBlanks s).isEmpty ∧ offset.natAbs < 1440 ∧ t.date.isValid then some t else none

def ofDocument? (d : Document) : Option Timestamp := d.text?.bind read?

def toDocument (t : Timestamp) : Document := .text t.text

end TxGateway.Timestamp
