import TxGateway.Document
import TxGateway.Text.Digits

namespace TxGateway.Document.Toml

/-! # Strings and keys of TOML

The four kinds of strings, bare and quoted keys, and what may stand between them on a line. Loops
over a text carry fuel, for which the length of the whole text and one is enough.

* `readText?` reads a string of any kind, `readKey?` a dotted key.
* A line of a multi-line string ends with a line feed, however it ends in the text.
-/

/-! ## Blanks -/

def isSpace (c : Char) : Bool := c == ' ' || c == '\t'

def skipSpace (s : List Char) : List Char := s.dropWhile isSpace

/-- The rest after a line end, if the text begins with one. -/
def newline? : List Char → Option (List Char)
  | '\n' :: rest => some rest
  | '\r' :: '\n' :: rest => some rest
  | _ => none

/-- A character that may stand in a comment or a literal string: no control but the tab. -/
def isPlain (c : Char) : Bool := c == '\t' || (0x20 ≤ c.toNat && c.toNat != 0x7F)

/-- The rest after blanks and a comment. -/
def skipComment (s : List Char) : List Char :=
  match skipSpace s with
  | '#' :: rest => rest.dropWhile isPlain
  | s => s

/-- The rest after the end of a statement: blanks, a comment, and a line end or the end of the
text. -/
def endOfLine? (s : List Char) : Option (List Char) :=
  match skipComment s with
  | [] => some []
  | s => newline? s

/-- The rest after blanks, comments and line ends. -/
def skipLines : (fuel : Nat) → List Char → List Char
  | 0, s => s
  | fuel + 1, s =>
    let s := skipComment s
    match newline? s with
    | some rest => skipLines fuel rest
    | none => s

/-! ## Strings -/

/-- The character of a one-letter escape. -/
def escape? : Char → Option Char
  | 'b' => some '\x08'
  | 't' => some '\t'
  | 'n' => some '\n'
  | 'f' => some '\x0c'
  | 'r' => some '\r'
  | '"' => some '"'
  | '\\' => some '\\'
  | _ => none

/-- The character of a code point that digits spell, if it is one. -/
def codePoint? (digits : List Char) : Option Char := do
  let n ← Text.readBase 16 digits
  if h : n.isValidChar then some (Char.ofNatAux n h) else none

/-- Reads an escape after its backslash. -/
def readEscape? : List Char → Option (Char × List Char)
  | 'u' :: a :: b :: c :: d :: rest => (codePoint? [a, b, c, d]).map fun x => (x, rest)
  | 'U' :: a :: b :: c :: d :: e :: f :: g :: h :: rest =>
    (codePoint? [a, b, c, d, e, f, g, h]).map fun x => (x, rest)
  | c :: rest => (escape? c).map fun x => (x, rest)
  | [] => none

/-- Reads a basic string of one line to its quote. -/
def readBasic? : (fuel : Nat) → List Char → List Char → Option (String × List Char)
  | 0, _, _ => none
  | fuel + 1, acc, s =>
    match s with
    | '"' :: rest => some (String.ofList acc.reverse, rest)
    | '\\' :: rest =>
      match readEscape? rest with
      | some (c, rest) => readBasic? fuel (c :: acc) rest
      | none => none
    | c :: rest => if isPlain c then readBasic? fuel (c :: acc) rest else none
    | [] => none

/-- Reads a literal string of one line to its quote. -/
def readLiteral? (s : List Char) : Option (String × List Char) :=
  let isInside (c : Char) : Bool := isPlain c && c != '\''
  match s.dropWhile isInside with
  | '\'' :: rest => some (String.ofList (s.takeWhile isInside), rest)
  | _ => none

/-- Reads the quotes at the end of a string of several lines, of which two may belong to the
string; `none` if they do not end it. -/
def closing? (quote : Char) (s : List Char) : Option (List Char × List Char) :=
  let quotes := (s.takeWhile (· == quote)).length
  if quotes < 3 then none
  else
    let inside := min (quotes - 3) 2
    some (List.replicate inside quote, s.drop (inside + 3))

/-- The rest after a backslash at the end of a line: blanks, at least one line end, and what is
blank at the start of the next lines. -/
def continuation? (s : List Char) : Option (List Char) :=
  let isBlank (c : Char) : Bool := isSpace c || c == '\n' || c == '\r'
  match newline? (skipSpace s) with
  | some rest => some (rest.dropWhile isBlank)
  | none => none

/-- Reads a basic string of several lines to its quotes. -/
def readBasicLines? : (fuel : Nat) → List Char → List Char → Option (String × List Char)
  | 0, _, _ => none
  | fuel + 1, acc, s =>
    match closing? '"' s with
    | some (inside, rest) => some (String.ofList (inside ++ acc).reverse, rest)
    | none =>
      match newline? s with
      | some rest => readBasicLines? fuel ('\n' :: acc) rest
      | none =>
        match s with
        | '\\' :: rest =>
          match continuation? rest with
          | some rest => readBasicLines? fuel acc rest
          | none =>
            match readEscape? rest with
            | some (c, rest) => readBasicLines? fuel (c :: acc) rest
            | none => none
        | c :: rest => if isPlain c then readBasicLines? fuel (c :: acc) rest else none
        | [] => none

/-- Reads a literal string of several lines to its quotes. -/
def readLiteralLines? : (fuel : Nat) → List Char → List Char → Option (String × List Char)
  | 0, _, _ => none
  | fuel + 1, acc, s =>
    match closing? '\'' s with
    | some (inside, rest) => some (String.ofList (inside ++ acc).reverse, rest)
    | none =>
      match newline? s with
      | some rest => readLiteralLines? fuel ('\n' :: acc) rest
      | none =>
        match s with
        | c :: rest => if isPlain c then readLiteralLines? fuel (c :: acc) rest else none
        | [] => none

/-- The rest after a line end that stands directly behind the opening quotes. -/
def skipFirstNewline (s : List Char) : List Char := (newline? s).getD s

/-- Reads a string of any kind, `none` if the text does not begin with one. -/
def readText? (fuel : Nat) : List Char → Option (String × List Char)
  | '"' :: '"' :: '"' :: rest => readBasicLines? fuel [] (skipFirstNewline rest)
  | '\'' :: '\'' :: '\'' :: rest => readLiteralLines? fuel [] (skipFirstNewline rest)
  | '"' :: rest => readBasic? fuel [] rest
  | '\'' :: rest => readLiteral? rest
  | _ => none

/-! ## Keys -/

def isBareKey (c : Char) : Bool := c.isAlphanum || c == '_' || c == '-'

/-- Reads one part of a key. -/
def readKeyPart? (fuel : Nat) : List Char → Option (String × List Char)
  | '"' :: rest => readBasic? fuel [] rest
  | '\'' :: rest => readLiteral? rest
  | s =>
    match s.takeWhile isBareKey with
    | [] => none
    | part => some (String.ofList part, s.dropWhile isBareKey)

/-- Reads the parts of a dotted key, blanks around them left out. -/
def readKeyParts? : (fuel : Nat) → List String → List Char → Option (List String × List Char)
  | 0, _, _ => none
  | fuel + 1, acc, s =>
    match readKeyPart? fuel (skipSpace s) with
    | none => none
    | some (part, rest) =>
      match skipSpace rest with
      | '.' :: rest => readKeyParts? fuel (part :: acc) rest
      | rest => some ((part :: acc).reverse, rest)

/-- Reads a dotted key, one part at least. -/
def readKey? (fuel : Nat) (s : List Char) : Option (List String × List Char) :=
  readKeyParts? fuel [] s

end TxGateway.Document.Toml
