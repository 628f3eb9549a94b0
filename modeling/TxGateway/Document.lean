namespace TxGateway

/-! # Documents

A document is a value as a JSON or TOML text spells it, before it is read as a record of this
library. Members keep the order and the repetitions of the text, and a number keeps the way it was
written, because reading a record looks at both.

* `Document` has one constructor a kind of value. JSON texts have no `token` but for strings that
  spell half a surrogate pair; TOML texts have no `null`, and their dates and infinite numbers are
  tokens.
* `Document.same_iff`: equality of documents is decidable.
-/

/-- A number written with a fraction or an exponent: `digits` times ten to the `exponent`, below
zero if `negative`. -/
structure Decimal where
  negative : Bool
  digits : Nat
  exponent : Int
deriving DecidableEq, Repr

/-- A self-describing value. -/
inductive Document where
  | null
  | bool (b : Bool)
  /-- A number written without fraction or exponent; never written `-0`. -/
  | integer (n : Int)
  | decimal (d : Decimal)
  | text (s : String)
  | list (items : List Document)
  | record (members : List (String × Document))
  /-- A scalar of a kind that no record holds, kept as it was written. -/
  | token (source : String)
deriving Repr, Inhabited

namespace Document

/-! ## Equality -/

mutual

/-- Whether two documents are the same, member by member and in order. -/
def same : Document → Document → Bool
  | .null, .null => true
  | .bool a, .bool b => a == b
  | .integer a, .integer b => a == b
  | .decimal a, .decimal b => a == b
  | .text a, .text b => a == b
  | .list xs, .list ys => sameItems xs ys
  | .record ms, .record ns => sameMembers ms ns
  | .token a, .token b => a == b
  | _, _ => false

def sameItems : List Document → List Document → Bool
  | [], [] => true
  | x :: xs, y :: ys => same x y && sameItems xs ys
  | _, _ => false

def sameMembers : List (String × Document) → List (String × Document) → Bool
  | [], [] => true
  | (k, x) :: ms, (l, y) :: ns => k == l && same x y && sameMembers ms ns
  | _, _ => false

end

mutual

theorem same_iff : (a b : Document) → (same a b = true ↔ a = b)
  | .list xs, b => by cases b <;> simp [same, sameItems_iff xs]
  | .record ms, b => by cases b <;> simp [same, sameMembers_iff ms]
  | .null, b | .bool _, b | .integer _, b | .decimal _, b | .text _, b | .token _, b => by
    cases b <;> simp [same]

theorem sameItems_iff : (xs ys : List Document) → (sameItems xs ys = true ↔ xs = ys)
  | [], ys => by cases ys <;> simp [sameItems]
  | x :: xs, ys => by cases ys <;> simp [sameItems, same_iff x, sameItems_iff xs]

theorem sameMembers_iff : (ms ns : List (String × Document)) → (sameMembers ms ns = true ↔ ms = ns)
  | [], ns => by cases ns <;> simp [sameMembers]
  | (k, x) :: ms, ns => by
    cases ns <;> simp [sameMembers, same_iff x, sameMembers_iff ms, Prod.ext_iff]

end

instance : DecidableEq Document := fun a b => decidable_of_iff _ (same_iff a b)

end Document

end TxGateway
