import TxGateway.Document.Record

namespace TxGateway.Document

/-! # Tables of members

A record is written as named members, and some of them are left out. A table has one row for every
declared member: its name, and what is written for it, if anything is. Reading the written members
comes to a look-up in the table, whatever was left out.

* `Table.document` is the record that a table writes, and `Table.members` what is read of it, which
  `Table.lookup_members` looks up in the table.
* `required_of_row`, `withDefault_of_row`, `optional_of_row` and others read one row.
* `list?_of_forall` reads a list.
* `exists_of_mem_list?`, `exists_of_optional` and `exists_of_nullable` go the other way, from what
  has been read to a document that it was read from.
-/

/-- A row for each declared member, with the document that is written for it. -/
structure Table (declared : List String) where
  rows : List (String × Option Document)
  names : rows.map Prod.fst = declared
  distinct : declared.Nodup

/-- The members that are written for rows. -/
def present (rows : List (String × Option Document)) : List (String × Document) :=
  rows.filterMap fun row => row.2.map fun d => (row.1, d)

@[simp] theorem present_cons_some (name : String) (d : Document)
    (rows : List (String × Option Document)) :
    present ((name, some d) :: rows) = (name, d) :: present rows := rfl

@[simp] theorem present_cons_none (name : String) (rows : List (String × Option Document)) :
    present ((name, none) :: rows) = present rows := rfl

theorem names_present_sublist (rows : List (String × Option Document)) :
    ((present rows).map Prod.fst).Sublist (rows.map Prod.fst) := by
  induction rows with
  | nil => exact .slnil
  | cons row rest ih =>
    obtain ⟨name, d⟩ := row
    cases d with
    | none => exact ih.cons name
    | some d => exact ih.cons_cons name

theorem lookup_present {rows : List (String × Option Document)}
    (hdistinct : (rows.map Prod.fst).Nodup) (name : String) :
    (present rows).lookup name = (rows.lookup name).join := by
  induction rows with
  | nil => rfl
  | cons row rest ih =>
    obtain ⟨first, d⟩ := row
    obtain ⟨hfirst, hrest⟩ := List.nodup_cons.mp hdistinct
    cases d with
    | some d =>
      rw [present_cons_some, List.lookup_cons, List.lookup_cons, ih hrest]
      cases name == first <;> rfl
    | none =>
      rw [present_cons_none, List.lookup_cons, ih hrest]
      cases hname : name == first with
      | false => rfl
      | true =>
        -- the name is that of the row, so no other row has it
        have hnone : rest.lookup name = none := by
          rw [eq_of_beq hname]
          refine List.lookup_eq_none_iff.mpr fun row hrow => ?_
          exact bne_iff_ne.mpr fun heq => hfirst (List.mem_map.mpr ⟨row, hrow, heq.symm⟩)
        rw [hnone]
        rfl

namespace Table

variable {declared : List String} (t : Table declared)

/-- The record that the table writes. -/
def document : Document := .record (present t.rows)

/-- What the record offers to be read. -/
def members : Members := ⟨false, present t.rows⟩

theorem members?_document : members? declared t.document = some t.members := by
  have hsub := names_present_sublist t.rows
  rw [t.names] at hsub
  have hall : (present t.rows).filter (fun m => declared.contains m.1) = present t.rows := by
    refine List.filter_eq_self.mpr fun m hm => ?_
    exact List.contains_iff_mem.mpr (hsub.subset (List.mem_map_of_mem hm))
  have hdistinct : ((present t.rows).map Prod.fst).Pairwise (· ≠ ·) := t.distinct.sublist hsub
  simp only [members?, document, hall]
  rw [if_pos hdistinct]
  rfl

theorem lookup_members {name : String} {d : Option Document}
    (hrow : t.rows.lookup name = some d) : t.members.found.lookup name = d := by
  have hdistinct : (t.rows.map Prod.fst).Nodup := by
    rw [t.names]
    exact t.distinct
  show (present t.rows).lookup name = d
  rw [lookup_present hdistinct, hrow]
  rfl

variable {t} {α β : Type} {name : String} {value? : Document → Option α}

theorem required_of_row {d : Document} {a : α} (hrow : t.rows.lookup name = some (some d))
    (hread : value? d = some a) : t.members.required name value? = some a := by
  rw [Members.required, t.lookup_members hrow]
  exact hread

/-- A member that is left out where it has the value that stands for its absence. -/
theorem withDefault_of_row {omitted : Bool} {d : Document} {a absent : α}
    (hrow : t.rows.lookup name = some (if omitted then none else some d))
    (habsent : omitted = true → a = absent) (hread : value? d = some a) :
    t.members.withDefault name value? absent = some a := by
  rw [Members.withDefault, t.lookup_members hrow]
  cases omitted with
  | true => exact congrArg some (habsent rfl).symm
  | false => exact hread

/-- A member that is always written. -/
theorem withDefault_of_written {d : Document} {a absent : α}
    (hrow : t.rows.lookup name = some (some d)) (hread : value? d = some a) :
    t.members.withDefault name value? absent = some a := by
  rw [Members.withDefault, t.lookup_members hrow]
  exact hread

theorem orNull?_of_ne_null {d : Document} {a : α} (hnull : d ≠ .null) (h : value? d = some a) :
    orNull? value? d = some (some a) := by
  cases d with
  | null => exact absurd rfl hnull
  | _ => simp [orNull?, h]

/-- What is written for the value of an option is no `null`, and is read as what is left of it. -/
def ReadsSome (value? : Document → Option α) (write : β → Document) (left : β → α)
    (x : Option β) : Prop :=
  ∀ b ∈ x, write b ≠ .null ∧ value? (write b) = some (left b)

/-- A member that is left out where it has no value. -/
theorem optional_of_row {write : β → Document} {left : β → α} {x : Option β}
    (hrow : t.rows.lookup name = some (x.map write)) (hread : ReadsSome value? write left x) :
    t.members.optional name value? = some (x.map left) := by
  rw [Members.optional, Members.withDefault, t.lookup_members hrow]
  cases x with
  | none => rfl
  | some b => exact orNull?_of_ne_null (hread b rfl).1 (hread b rfl).2

/-- A member that is written as `null` where it has no value. -/
theorem optional_of_written {write : β → Document} {left : β → α} {x : Option β}
    (hrow : t.rows.lookup name = some (some (ofOption write x)))
    (hread : ReadsSome value? write left x) :
    t.members.optional name value? = some (x.map left) := by
  rw [Members.optional, Members.withDefault, t.lookup_members hrow]
  cases x with
  | none => rfl
  | some b => exact orNull?_of_ne_null (hread b rfl).1 (hread b rfl).2

theorem nullable_of_written {write : β → Document} {left : β → α} {x : Option β}
    (hrow : t.rows.lookup name = some (some (ofOption write x)))
    (hread : ReadsSome value? write left x) :
    t.members.nullable name value? = some (x.map left) :=
  optional_of_written hrow hread

/-- The case of a value that is left as it is. -/
theorem optional_same_of_row {write : α → Document} {x : Option α}
    (hrow : t.rows.lookup name = some (x.map write))
    (hread : ∀ a ∈ x, write a ≠ .null ∧ value? (write a) = some a) :
    t.members.optional name value? = some x := by
  have hleft : ReadsSome value? write id x := hread
  rw [optional_of_row hrow hleft, Option.map_id_apply]

theorem nullable_same_of_written {write : α → Document} {x : Option α}
    (hrow : t.rows.lookup name = some (some (ofOption write x)))
    (hread : ∀ a ∈ x, write a ≠ .null ∧ value? (write a) = some a) :
    t.members.nullable name value? = some x := by
  have hleft : ReadsSome value? write id x := hread
  rw [nullable_of_written hrow hleft, Option.map_id_apply]

end Table

/-! ## Lists -/

variable {α β : Type} {value? : Document → Option α}

theorem list?_of_forall {write : β → Document} {left : β → α} {xs : List β}
    (h : ∀ x ∈ xs, value? (write x) = some (left x)) :
    list? value? (.list (xs.map write)) = some (xs.map left) := by
  show (xs.map write).mapM value? = some (xs.map left)
  induction xs with
  | nil => rfl
  | cons x rest ih =>
    rw [List.map_cons, List.mapM_cons, h x List.mem_cons_self,
      ih fun y hy => h y (List.mem_cons_of_mem x hy)]
    rfl

/-- Every item of a list that was read has been read. -/
theorem exists_of_mem_list? {d : Document} {xs : List α} (h : list? value? d = some xs) {x : α}
    (hx : x ∈ xs) : ∃ item, value? item = some x := by
  cases d with
  | list items =>
    have hitems : items.mapM value? = some xs := h
    clear h
    induction items generalizing xs with
    | nil =>
      cases hitems
      cases hx
    | cons item rest ih =>
      rw [List.mapM_cons] at hitems
      simp only [Option.bind_eq_bind, Option.bind_eq_some_iff] at hitems
      obtain ⟨a, ha, as, has, hxs⟩ := hitems
      cases hxs
      rcases List.mem_cons.mp hx with rfl | hx
      · exact ⟨item, ha⟩
      · exact ih hx has
  | _ => cases h

/-! ## Members that may be absent -/

/-- A value of such a member has been read from a document that is no `null`. -/
theorem exists_of_orNull? {d : Document} {a : α} (h : orNull? value? d = some (some a)) :
    d ≠ .null ∧ value? d = some a := by
  cases d with
  | null => cases h
  | _ =>
    obtain ⟨b, hb, hab⟩ := Option.map_eq_some_iff.mp h
    cases hab
    exact ⟨nofun, hb⟩

theorem exists_of_optional {ms : Members} {name : String} {a : α}
    (h : ms.optional name value? = some (some a)) : ∃ d, d ≠ .null ∧ value? d = some a := by
  unfold Members.optional Members.withDefault at h
  split at h
  · exact ⟨_, exists_of_orNull? h⟩
  · cases h

theorem exists_of_nullable {ms : Members} {name : String} {a : α}
    (h : ms.nullable name value? = some (some a)) : ∃ d, d ≠ .null ∧ value? d = some a := by
  unfold Members.nullable at h
  split at h
  · unfold Members.required at h
    split at h
    · exact ⟨_, exists_of_orNull? h⟩
    · cases h
  · exact exists_of_optional h

end TxGateway.Document
