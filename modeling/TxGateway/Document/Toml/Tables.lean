import TxGateway.Document

namespace TxGateway.Document.Toml

/-! # Tables of TOML

The tables of a text while it is read. How a table came about decides what may still be added to it.

* `openTable?` and `openElement?` are headers: of a table, and of one more table in an array.
* `put?` puts a value under a dotted key.
* A table is stated once at most. A header may pass through every table on its way and state one
  that was only implied; a dotted key may not pass through a table that was stated, and puts its
  value into a table of dotted keys only.
-/

/-- How a table came about. -/
inductive Standing where
  /-- Named on the way by a header of a table inside it. -/
  | implied
  /-- Named on the way by a dotted key. -/
  | dotted
  /-- Named by a header of its own. -/
  | stated
deriving DecidableEq, Repr

inductive Node where
  /-- A value, to which nothing can be added. -/
  | leaf (value : Document)
  | table (standing : Standing) (members : List (String × Node))
  /-- Tables of an array, the last one first. -/
  | tables (elements : List (List (String × Node)))

abbrev Members : Type := List (String × Node)

namespace Members

/-- Puts a member in the place of one of the same name, or at the end. -/
def set (name : String) (node : Node) : Members → Members
  | [] => [(name, node)]
  | m :: rest => if m.1 == name then (name, node) :: rest else m :: set name node rest

/-- Adds a member of a new name. -/
def add? (name : String) (node : Node) (ms : Members) : Option Members :=
  match ms.lookup name with
  | some _ => none
  | none => some (set name node ms)

/-- Changes the table that the path of a header leads to. -/
def within? (change : Members → Option Members) : List String → Members → Option Members
  | [], ms => change ms
  | name :: path, ms =>
    match ms.lookup name with
    | none => (within? change path []).map fun inner => set name (.table .implied inner) ms
    | some (.table standing inner) =>
      (within? change path inner).map fun inner => set name (.table standing inner) ms
    | some (.tables (last :: before)) =>
      (within? change path last).map fun last => set name (.tables (last :: before)) ms
    | some _ => none

/-- States a table, which must not have been there except as implied. -/
def state? (name : String) (ms : Members) : Option Members :=
  match ms.lookup name with
  | none => some (set name (.table .stated []) ms)
  | some (.table .implied inner) => some (set name (.table .stated inner) ms)
  | some _ => none

/-- Adds a table to an array of tables, which is begun if there is none. -/
def extend? (name : String) (ms : Members) : Option Members :=
  match ms.lookup name with
  | none => some (set name (.tables [[]]) ms)
  | some (.tables elements) => some (set name (.tables ([] :: elements)) ms)
  | some _ => none

/-- Follows the header of a table. -/
def openTable? (path : List String) (name : String) (ms : Members) : Option Members :=
  within? (state? name) path ms

/-- Follows the header of a table in an array. -/
def openElement? (path : List String) (name : String) (ms : Members) : Option Members :=
  within? (extend? name) path ms

/-- Puts a value under a dotted key, whose last part is `name`. -/
def put? (name : String) (value : Document) : List String → Members → Option Members
  | [], ms => add? name (.leaf value) ms
  | part :: path, ms =>
    let inside (isDotted : Bool) (inner : Members) : Option Members :=
      if path.isEmpty && !isDotted then none else put? name value path inner
    match ms.lookup part with
    | none => (inside true []).map fun inner => set part (.table .dotted inner) ms
    | some (.table .stated _) => none
    | some (.table standing inner) =>
      (inside (standing == .dotted) inner).map fun inner => set part (.table standing inner) ms
    | some (.tables (last :: before)) =>
      (inside false last).map fun last => set part (.tables (last :: before)) ms
    | some _ => none

end Members

/-! ## The finished text -/

mutual

def Node.toDocument : Node → Document
  | .leaf value => value
  | .table _ members => .record (memberDocuments members)
  | .tables elements => .list (elementDocuments elements).reverse

def elementDocuments : List (List (String × Node)) → List Document
  | [] => []
  | members :: rest => .record (memberDocuments members) :: elementDocuments rest

def memberDocuments : List (String × Node) → List (String × Document)
  | [] => []
  | (name, node) :: rest => (name, node.toDocument) :: memberDocuments rest

end

/-- The document of finished tables. -/
def Members.toDocument (ms : Members) : Document := .record (memberDocuments ms)

end TxGateway.Document.Toml
