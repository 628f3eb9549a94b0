namespace TxGateway

/-! # References to the environment

A text of settings may refer to variables of the environment: a dollar sign and braces around a
name, or around a name, the sign `:-` and a default. A text is cut into plain characters and
references from left to right; values that are put in are not looked at again.

* `Reference.atFront?` is the grammar of one reference.
* `Reference.pieces` cuts a text, and `Piece.source` gives each piece back as it was written.
* `Reference.resolve` puts in the values, and names the first variable that is needed and not set.
-/

structure Reference where
  name : List Char
  default : Option (List Char)
deriving DecidableEq, Repr

/-- A part of a text. -/
inductive Piece where
  | plain (c : Char)
  | reference (r : Reference)
deriving DecidableEq, Repr

namespace Reference

/-- The most characters of a name and of a default. -/
def maxName : Nat := 128

def maxDefault : Nat := 256

def isNameStart (c : Char) : Bool := ('A' ≤ c && c ≤ 'Z') || c == '_'

def isNameChar (c : Char) : Bool := isNameStart c || ('0' ≤ c && c ≤ '9')

/-- Splits off the longest front of characters of a class, if it has `limit` characters at most. -/
def span? (p : Char → Bool) : (limit : Nat) → List Char → Option (List Char × List Char)
  | _, [] => some ([], [])
  | limit, c :: rest =>
    if p c then
      match limit with
      | 0 => none
      | limit + 1 => (span? p limit rest).map fun (front, rest) => (c :: front, rest)
    else some ([], c :: rest)

theorem span?_length {p : Char → Bool} {limit : Nat} {s front rest : List Char}
    (h : span? p limit s = some (front, rest)) : rest.length ≤ s.length := by
  induction s generalizing limit front rest with
  | nil =>
    rw [span?.eq_def] at h
    simp only [Option.some.injEq, Prod.mk.injEq] at h
    simp [← h.2]
  | cons c s ih =>
    rw [span?.eq_def] at h
    simp only at h
    split at h
    · split at h
      · simp at h
      · next limit =>
        obtain ⟨⟨f, r⟩, hr, hfr⟩ := Option.map_eq_some_iff.1 h
        simp only [Prod.mk.injEq] at hfr
        have := ih hr
        simp only [List.length_cons, ← hfr.2]
        omega
    · simp only [Option.some.injEq, Prod.mk.injEq] at h; simp [← h.2]

/-- Reads what follows the name: a brace, or a default and a brace. -/
def tail? (name : List Char) : List Char → Option (Reference × List Char)
  | '\x7d' :: rest => some (⟨name, none⟩, rest)
  | ':' :: '-' :: rest =>
    match span? (· != '\x7d') maxDefault rest with
    | some (default, _ :: rest) => some (⟨name, some default⟩, rest)
    | _ => none
  | _ => none

/-- Reads a reference at the front of a text. -/
def atFront? : List Char → Option (Reference × List Char)
  | '$' :: '\x7b' :: c :: rest =>
    if isNameStart c then
      match span? isNameChar (maxName - 1) rest with
      | some (name, rest) => tail? (c :: name) rest
      | none => none
    else none
  | _ => none

theorem tail?_length {name s rest : List Char} {r : Reference} (h : tail? name s = some (r, rest)) :
    rest.length < s.length := by
  unfold tail? at h
  split at h
  · simp only [Option.some.injEq, Prod.mk.injEq] at h; simp [← h.2]
  · next s =>
    split at h
    · next hs =>
      have := span?_length hs
      simp only [Option.some.injEq, Prod.mk.injEq] at h
      simp only [List.length_cons, ← h.2] at this ⊢
      omega
    · simp at h
  · simp at h

theorem atFront?_length {s rest : List Char} {r : Reference} (h : atFront? s = some (r, rest)) :
    rest.length < s.length := by
  unfold atFront? at h
  split at h
  · split at h
    · split at h
      · next hs =>
        have := span?_length hs
        have := tail?_length h
        simp only [List.length_cons]
        omega
      · simp at h
    · simp at h
  · simp at h

/-- Cuts a text. `acc` holds the pieces so far, the last first. -/
def piecesOnto (acc : List Piece) (s : List Char) : List Piece :=
  match s with
  | [] => acc.reverse
  | c :: rest =>
    match _h : atFront? (c :: rest) with
    | some (r, after) => piecesOnto (.reference r :: acc) after
    | none => piecesOnto (.plain c :: acc) rest
termination_by s.length
decreasing_by
  · exact atFront?_length _h
  · exact Nat.lt_succ_self rest.length

/-- Cuts a text into plain characters and references. -/
def pieces (s : List Char) : List Piece := piecesOnto [] s

/-- The names of the variables that a text refers to. -/
def names (s : String) : List String :=
  (pieces s.toList).filterMap fun
    | .reference r => some (String.ofList r.name)
    | .plain _ => none

/-- A reference as it is written. -/
def source (r : Reference) : List Char :=
  '$' :: '\x7b' :: r.name ++
    (match r.default with
      | some default => ':' :: '-' :: default
      | none => []) ++ ['\x7d']

/-- The value of a reference: that of the variable if it is set, else the default. -/
def value? (env : String → Option String) (r : Reference) : Option (List Char) :=
  match env (String.ofList r.name) with
  | some value => some value.toList
  | none => r.default

end Reference

namespace Piece

/-- A piece as it is written. -/
def source : Piece → List Char
  | .plain c => [c]
  | .reference r => r.source

/-- What a piece becomes, or the variable that it needs. -/
def resolve (env : String → Option String) : Piece → Except String (List Char)
  | .plain c => .ok [c]
  | .reference r =>
    match r.value? env with
    | some value => .ok value
    | none => .error (String.ofList r.name)

end Piece

namespace Reference

/-- Resolves pieces one after the other. `acc` holds the characters so far, the last first. -/
def resolveOnto (env : String → Option String) (acc : List Char) :
    List Piece → Except String (List Char)
  | [] => .ok acc.reverse
  | p :: rest =>
    match p.resolve env with
    | .ok value => resolveOnto env (value.reverse ++ acc) rest
    | .error name => .error name

/-- Puts the values of all references into a text, or names the first variable that is not set. -/
def resolve (env : String → Option String) (s : String) : Except String String :=
  (resolveOnto env [] (pieces s.toList)).map String.ofList

end Reference

end TxGateway
