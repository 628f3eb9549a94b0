import TxGateway.Document
import TxGateway.Text.Quoted

namespace TxGateway.Document.Json

/-! # Writing JSON

`compact` writes a document without blanks, `pretty` over several lines with two spaces a level.
Both write members in the order of the document.
-/

/-- How a character is written inside a string. -/
def stringChar (c : Char) : List Char :=
  match c with
  | '"' => ['\\', '"']
  | '\\' => ['\\', '\\']
  | '\x08' => ['\\', 'b']
  | '\x0c' => ['\\', 'f']
  | '\n' => ['\\', 'n']
  | '\r' => ['\\', 'r']
  | '\t' => ['\\', 't']
  | c =>
    if c.toNat < 0x20 then
      ['\\', 'u', '0', '0', Nat.digitChar (c.toNat / 16), Nat.digitChar (c.toNat % 16)]
    else [c]

/-- A text as a JSON string. -/
def string (s : String) : String :=
  String.ofList ('"' :: (s.toList.flatMap stringChar ++ ['"']))

/-- A decimal: digits and, if it is not zero, an exponent. -/
def decimal (d : Decimal) : String :=
  (if d.negative then "-" else "") ++ toString d.digits ++
    (if d.exponent = 0 then ".0" else "e" ++ toString d.exponent)

mutual

/-- A document without blanks. -/
def compact : Document → String
  | .null => "null"
  | .bool b => if b then "true" else "false"
  | .integer n => toString n
  | .decimal d => decimal d
  | .text s => string s
  | .list items => "[" ++ compactItems items ++ "]"
  | .record members => "\x7b" ++ compactMembers members ++ "\x7d"
  | .token source => string source

def compactItems : List Document → String
  | [] => ""
  | [x] => compact x
  | x :: rest => compact x ++ "," ++ compactItems rest

def compactMembers : List (String × Document) → String
  | [] => ""
  | [(k, x)] => string k ++ ":" ++ compact x
  | (k, x) :: rest => string k ++ ":" ++ compact x ++ "," ++ compactMembers rest

end

/-- The start of a line at a level. -/
def indent (level : Nat) : String := "\n" ++ String.ofList (List.replicate (2 * level) ' ')

mutual

/-- A document over several lines, its own lines at `level`. -/
def prettyAt (level : Nat) : Document → String
  | .list [] => "[]"
  | .record [] => "\x7b\x7d"
  | .list items => "[" ++ prettyItems (level + 1) items ++ indent level ++ "]"
  | .record members => "\x7b" ++ prettyMembers (level + 1) members ++ indent level ++ "\x7d"
  | .null => "null"
  | .bool b => if b then "true" else "false"
  | .integer n => toString n
  | .decimal d => decimal d
  | .text s => string s
  | .token source => string source

def prettyItems (level : Nat) : List Document → String
  | [] => ""
  | [x] => indent level ++ prettyAt level x
  | x :: rest => indent level ++ prettyAt level x ++ "," ++ prettyItems level rest

def prettyMembers (level : Nat) : List (String × Document) → String
  | [] => ""
  | [(k, x)] => indent level ++ string k ++ ": " ++ prettyAt level x
  | (k, x) :: rest =>
    indent level ++ string k ++ ": " ++ prettyAt level x ++ "," ++ prettyMembers level rest

end

/-- A document over several lines. -/
def pretty (d : Document) : String := prettyAt 0 d

end TxGateway.Document.Json
