import TxGateway.Text.LowerCase.Table

namespace TxGateway.Text

/-! # Lower case

Lower-casing by the full Unicode rules. Each character is replaced by its lower-case partner, with
two exceptions.

* The capital I with a dot above becomes two characters, `i` and a combining dot.
* The capital sigma becomes the final sigma at the end of a word: a cased character stands before
  it and none after it, case-ignorable characters skipped on both sides.

So the text around a capital sigma decides what it becomes, and lower-casing a part of a text is
not always a part of lower-casing the whole.
-/

namespace LowerCase

/-- Membership in a table of closed ranges. -/
def inRanges (table : List (Nat × Nat)) (n : Nat) : Bool :=
  table.any fun r => r.1 ≤ n && n ≤ r.2

/-- Whether a run has the code point `n`. -/
def Run.has (r : Run) (n : Nat) : Bool :=
  r.first ≤ n && n ≤ r.last && (n - r.first) % r.step == 0

/-- The lower-case partner of a character, itself if it has none. -/
def partner (c : Char) : Char :=
  match runs.find? (Run.has · c.toNat) with
  | some r => Char.ofNat (Int.toNat (c.toNat + r.shift))
  | none => c

def isCased (c : Char) : Bool := inRanges casedRanges c.toNat

def isIgnorable (c : Char) : Bool := inRanges ignorableRanges c.toNat

/-- The first character that is not ignorable is there and is cased. -/
def startsCased (s : List Char) : Bool :=
  (s.dropWhile isIgnorable).head?.any isCased

end LowerCase

open LowerCase

/-- The lower-case text of a character other than the capital sigma. -/
def lowerChar (c : Char) : List Char :=
  if c.toNat < 0x80 then [c.toLower]
  else if c = 'İ' then ['i', '\u0307']
  else [partner c]

/-- Lower-cases a text that follows the characters `before`, the nearest of them first. -/
def lowerAfter (before : List Char) : List Char → List Char
  | [] => []
  | c :: rest =>
    if c = 'Σ' then
      (if startsCased before && !startsCased rest then 'ς' else 'σ') ::
        lowerAfter (c :: before) rest
    else lowerChar c ++ lowerAfter (c :: before) rest

/-- Lower case by the full Unicode rules. -/
def lower (s : List Char) : List Char := lowerAfter [] s

/-- Whether `pattern` occurs as a contiguous part of a text. -/
def occursIn (pattern : List Char) : List Char → Bool
  | [] => pattern.isEmpty
  | c :: rest => pattern.isPrefixOf (c :: rest) || occursIn pattern rest

theorem occursIn_iff (p s : List Char) : occursIn p s = true ↔ p <:+: s := by
  induction s with
  | nil => simp [occursIn]
  | cons c rest ih =>
    rw [occursIn, Bool.or_eq_true, ih, List.isPrefixOf_iff_prefix, List.infix_cons_iff]

end TxGateway.Text
