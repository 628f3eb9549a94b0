import TxGateway.Document.Toml.Scalar
import TxGateway.Document.Toml.Tables

namespace TxGateway.Document.Toml

/-! # Reading TOML

A total reader of TOML texts. A text is a sequence of statements, one a line: headers, which say
where the following values go, and values under keys.

* `read?` reads a whole text, with or without a byte-order mark in front.
* Arrays and inline tables may lie at most `maxDepth` deep in one another.
-/

/-- How deep arrays and inline tables may lie in one another. -/
def maxDepth : Nat := 80

/-! ## Values -/

/-- Reads the items of an array up to its bracket. -/
def readItems? (value? : List Char → Option (Document × List Char)) :
    (fuel : Nat) → List Document → List Char → Option (Document × List Char)
  | 0, _, _ => none
  | fuel + 1, acc, s =>
    match skipLines fuel s with
    | ']' :: rest => some (.list acc.reverse, rest)
    | s =>
      match value? s with
      | none => none
      | some (x, rest) =>
        match skipLines fuel rest with
        | ',' :: rest => readItems? value? fuel (x :: acc) rest
        | ']' :: rest => some (.list (x :: acc).reverse, rest)
        | _ => none

/-- Splits a dotted key into the way and the last part. -/
def splitKey : List String → List String × String
  | [] => ([], "")
  | [name] => ([], name)
  | part :: rest =>
    let (path, name) := splitKey rest
    (part :: path, name)

/-- Reads a key, the sign and a value. -/
def readPair? (value? : List Char → Option (Document × List Char)) (fuel : Nat) (s : List Char) :
    Option ((List String × String) × Document × List Char) :=
  match readKey? fuel s with
  | some (key, '=' :: rest) =>
    (value? (skipSpace rest)).map fun (x, rest) => (splitKey key, x, rest)
  | _ => none

/-- Reads the members of an inline table up to its brace. -/
def readMembers? (value? : List Char → Option (Document × List Char)) :
    (fuel : Nat) → Members → List Char → Option (Document × List Char)
  | 0, _, _ => none
  | fuel + 1, ms, s =>
    match readPair? value? fuel s with
    | none => none
    | some ((path, name), x, rest) =>
      match ms.put? name x path with
      | none => none
      | some ms =>
        match skipSpace rest with
        | ',' :: rest => readMembers? value? fuel ms rest
        | '\x7d' :: rest => some (ms.toDocument, rest)
        | _ => none

/-- Reads a value that holds no other. -/
def readPlain? (fuel : Nat) (s : List Char) : Option (Document × List Char) :=
  match s with
  | '"' :: _ | '\'' :: _ => (readText? fuel s).map fun (content, rest) => (.text content, rest)
  | s => readScalar? s

/-- Reads a value in which arrays and inline tables lie at most `depth` deep. -/
def readValue? (fuel : Nat) : (depth : Nat) → List Char → Option (Document × List Char)
  | 0, s => readPlain? fuel s
  | depth + 1, s =>
    match s with
    | '[' :: rest => readItems? (readValue? fuel depth) fuel [] rest
    | '\x7b' :: rest =>
      match skipSpace rest with
      | '\x7d' :: rest => some (.record [], rest)
      | rest => readMembers? (readValue? fuel depth) fuel [] rest
    | s => readPlain? fuel s

/-! ## Statements -/

/-- The tables so far, and where values go. -/
structure Draft where
  root : Members := []
  place : List String := []

/-- Puts a value under a dotted key at the present place. -/
def Draft.put? (d : Draft) (path : List String) (name : String) (value : Document) :
    Option Draft :=
  (Members.within? (Members.put? name value path) d.place d.root).map fun root => { d with root }

/-- Reads the header of a table after its bracket. -/
def readHeader? (fuel : Nat) (d : Draft) (s : List Char) : Option (Draft × List Char) :=
  match readKey? fuel s with
  | some (key, ']' :: rest) =>
    let (path, name) := splitKey key
    (d.root.openTable? path name).map fun root => (⟨root, key⟩, rest)
  | _ => none

/-- Reads the header of a table in an array after its two brackets. -/
def readElementHeader? (fuel : Nat) (d : Draft) (s : List Char) :
    Option (Draft × List Char) :=
  match readKey? fuel s with
  | some (key, ']' :: ']' :: rest) =>
    let (path, name) := splitKey key
    (d.root.openElement? path name).map fun root => (⟨root, key⟩, rest)
  | _ => none

/-- Reads a value under a key. -/
def readAssignment? (fuel : Nat) (d : Draft) (s : List Char) : Option (Draft × List Char) :=
  match readPair? (readValue? fuel maxDepth) fuel s with
  | some ((path, name), x, rest) => (d.put? path name x).map fun d => (d, rest)
  | none => none

/-- Reads one statement. -/
def readStatement? (fuel : Nat) (d : Draft) : List Char → Option (Draft × List Char)
  | '[' :: '[' :: rest => readElementHeader? fuel d rest
  | '[' :: rest => readHeader? fuel d rest
  | s => readAssignment? fuel d s

/-- Reads statements to the end of the text, whose length is less than `size`. -/
def readStatements? (size : Nat) : (fuel : Nat) → Draft → List Char → Option Draft
  | 0, _, _ => none
  | fuel + 1, d, s =>
    match skipLines size s with
    | [] => some d
    | s =>
      match readStatement? size d s with
      | none => none
      | some (d, rest) =>
        match endOfLine? rest with
        | none => none
        | some rest => readStatements? size fuel d rest

/-- Reads a TOML text. -/
def read? (s : String) : Option Document :=
  let chars := match s.toList with
    | '\uFEFF' :: rest => rest
    | chars => chars
  let size := chars.length + 1
  (readStatements? size size {} chars).map fun d => d.root.toDocument

end TxGateway.Document.Toml
