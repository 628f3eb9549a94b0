import TxGateway.Document.Free
import TxGateway.Word

namespace TxGateway.Document

/-! # Reading documents as records

A record of this library is read from a document by the names of its members, in the order in which
they are declared. Two shapes are accepted.

* A document with named members: other names are passed over, and a declared name that stands twice
  is refused.
* A list of the members' values in the order of declaration, not longer than the declaration.

`members?` brings both into one shape, `Members`, from which the members are then taken one by one.
A member that is absent is refused by `required`, replaced by `withDefault`, and `none` for
`optional`; `nullable` stands in between, since a list may not leave it off.
-/

/-! ## Scalars -/

def text? : Document → Option String
  | .text s => some s
  | _ => none

/-- A name out of a fixed list of names: a text, or a record of one member that has the name and is
`null`. TOML has no `null`, and the empty table that may stand there in its place is not read. -/
def name? : Document → Option String
  | .text s => some s
  | .record [(s, .null)] => some s
  | _ => none

def bool? : Document → Option Bool
  | .bool b => some b
  | _ => none

/-- An unsigned number of sixty-four bits. -/
def word? : Document → Option UInt64
  | .integer n => if Word.isUnsigned n then some (UInt64.ofNat n.toNat) else none
  | _ => none

/-- A signed number of sixty-four bits. -/
def signed? : Document → Option Int
  | .integer n => if Word.isSigned n then some n else none
  | _ => none

/-- A list, each item read by `item?`. -/
def list? {α : Type} (item? : Document → Option α) : Document → Option (List α)
  | .list items => items.mapM item?
  | _ => none

/-- A value or `null`. -/
def orNull? {α : Type} (value? : Document → Option α) : Document → Option (Option α)
  | .null => some none
  | d => (value? d).map some

/-! ## Members -/

/-- The declared members that a document offers. -/
structure Members where
  /-- The members came as a list, without names. -/
  positional : Bool
  found : List (String × Document)

/-- The declared members of a document, in either of the two shapes of a record. -/
def members? (declared : List String) : Document → Option Members
  | .record members =>
    let known := members.filter fun m => declared.contains m.1
    if (known.map (·.1)).Pairwise (· ≠ ·) then some ⟨false, known⟩ else none
  | .list items =>
    if items.length ≤ declared.length then some ⟨true, declared.zip items⟩ else none
  | _ => none

namespace Members

variable {α : Type}

/-- A member that has to be there. -/
def required (ms : Members) (name : String) (value? : Document → Option α) : Option α :=
  match ms.found.lookup name with
  | some d => value? d
  | none => none

/-- A member with a value that stands for its absence. -/
def withDefault (ms : Members) (name : String) (value? : Document → Option α) (absent : α) :
    Option α :=
  match ms.found.lookup name with
  | some d => value? d
  | none => some absent

/-- A member that may be absent or `null`. -/
def optional (ms : Members) (name : String) (value? : Document → Option α) : Option (Option α) :=
  ms.withDefault name (orNull? value?) none

/-- A member that may be `null`, or absent among named members. -/
def nullable (ms : Members) (name : String) (value? : Document → Option α) : Option (Option α) :=
  if ms.positional then ms.required name (orNull? value?) else ms.optional name value?

end Members

/-! ## Writing members -/

/-- A number as a document. -/
def ofWord (n : UInt64) : Document := .integer n.toNat

/-- A value that may be absent, as `null` when it is. -/
def ofOption {α : Type} (write : α → Document) : Option α → Document
  | some a => write a
  | none => .null

/-- A member that is written unless `absent` holds. -/
def memberUnless (absent : Bool) (name : String) (value : Document) : List (String × Document) :=
  if absent then [] else [(name, value)]

/-- A member that is written when its value is there. -/
def memberIfSome {α : Type} (name : String) (write : α → Document) (value : Option α) :
    List (String × Document) :=
  match value with
  | some a => [(name, write a)]
  | none => []

end TxGateway.Document
