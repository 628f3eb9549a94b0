import TxGateway.Document
import TxGateway.Word

namespace TxGateway

/-! # Free-form values

Some members hold a value of any shape, which is kept and written back without being read. Such a
value is brought into one form first: of members with the same name the last one counts, members
stand in the order of their names, and an integer outside sixty-four bits is a decimal.

* `Document.free?` is that form, `none` for a value that cannot be kept.
* `FreeValue` holds a document in that form.
* `Document.free?_idem`: the form of a form is itself.
-/

/-- The least number that does not round to a finite number of double precision. -/
def Decimal.finiteBound : Nat := Nat.pow 2 1024 - Nat.pow 2 970

/-- Whether a decimal rounds to a finite number of double precision. -/
def Decimal.isFinite (d : Decimal) : Bool :=
  let magnitude := (Nat.toDigits 10 d.digits).length + d.exponent
  if d.digits = 0 ∨ magnitude < 300 then true
  else if 400 < magnitude then false
  else d.digits * Nat.pow 10 d.exponent.toNat < Decimal.finiteBound * Nat.pow 10 (-d.exponent).toNat

namespace Document

/-- Puts a member in the order of names, in place of one of the same name. -/
def putMember (name : String) (value : Document) :
    List (String × Document) → List (String × Document)
  | [] => [(name, value)]
  | (k, v) :: rest =>
    if name < k then (name, value) :: (k, v) :: rest
    else if name = k then (name, value) :: rest
    else (k, v) :: putMember name value rest

/-- Members in the order of their names, the last of each name. -/
def orderMembers (members : List (String × Document)) : List (String × Document) :=
  members.foldl (fun done m => putMember m.1 m.2 done) []

/-- A decimal kept as it is, if it is finite. -/
def finite? (d : Decimal) : Option Document :=
  if d.isFinite then some (.decimal d) else none

/-- The form of an integer: itself within sixty-four bits, else a decimal. -/
def freeInteger? (n : Int) : Option Document :=
  if Word.isEither n then some (.integer n) else finite? ⟨n < 0, n.natAbs, 0⟩

mutual

/-- The form in which a value of any shape is kept. -/
def free? : Document → Option Document
  | .null => some .null
  | .bool b => some (.bool b)
  | .integer n => freeInteger? n
  | .decimal d => finite? d
  | .text s => some (.text s)
  | .list items => (freeItems? items).map .list
  | .record members => (freeMembers? members).map fun ms => .record (orderMembers ms)
  | .token _ => none

def freeItems? : List Document → Option (List Document)
  | [] => some []
  | x :: xs => do return (← free? x) :: (← freeItems? xs)

def freeMembers? : List (String × Document) → Option (List (String × Document))
  | [] => some []
  | (k, x) :: ms => do return (k, ← free? x) :: (← freeMembers? ms)

end

/-! ## One form for each value -/

/-- Members stand in strictly increasing order of their names. -/
def Ordered (members : List (String × Document)) : Prop :=
  members.Pairwise fun a b => a.1 < b.1

theorem mem_putMember {name : String} {value : Document} {members : List (String × Document)}
    {m : String × Document} (h : m ∈ putMember name value members) :
    m = (name, value) ∨ m ∈ members := by
  induction members with
  | nil => simpa [putMember] using h
  | cons a rest ih =>
    obtain ⟨k, v⟩ := a
    simp only [putMember] at h
    split at h
    · simpa using h
    · split at h
      · rcases List.mem_cons.1 h with h | h
        · exact .inl h
        · exact .inr (List.mem_cons_of_mem _ h)
      · rcases List.mem_cons.1 h with h | h
        · exact .inr (h ▸ List.mem_cons_self)
        · rcases ih h with h | h
          · exact .inl h
          · exact .inr (List.mem_cons_of_mem _ h)

theorem Ordered.putMember {name : String} {value : Document} {members : List (String × Document)}
    (h : Ordered members) : Ordered (putMember name value members) := by
  induction members with
  | nil => simp [Document.putMember, Ordered]
  | cons a rest ih =>
    obtain ⟨k, v⟩ := a
    obtain ⟨ha, hr⟩ := List.pairwise_cons.1 h
    simp only [Document.putMember]
    split
    · next hlt =>
      refine List.pairwise_cons.2 ⟨fun m hm => ?_, h⟩
      rcases List.mem_cons.1 hm with rfl | hm
      · exact hlt
      · exact String.lt_trans hlt (ha m hm)
    · split
      · next heq => subst heq; exact List.pairwise_cons.2 ⟨ha, hr⟩
      · next hlt hne =>
        refine List.pairwise_cons.2 ⟨fun m hm => ?_, ih hr⟩
        rcases mem_putMember hm with rfl | hm
        · exact Std.lt_of_le_of_ne hlt (Ne.symm hne)
        · exact ha m hm

theorem ordered_foldl_putMember (members done : List (String × Document)) (h : Ordered done) :
    Ordered (members.foldl (fun done m => Document.putMember m.1 m.2 done) done) := by
  induction members generalizing done with
  | nil => exact h
  | cons m ms ih => exact ih _ h.putMember

theorem ordered_orderMembers (members : List (String × Document)) :
    Ordered (orderMembers members) :=
  ordered_foldl_putMember members [] List.Pairwise.nil

/-- A name above all others goes to the end. -/
theorem putMember_of_above {name : String} {value : Document} {members : List (String × Document)}
    (h : ∀ m ∈ members, m.1 < name) :
    putMember name value members = members ++ [(name, value)] := by
  induction members with
  | nil => rfl
  | cons a rest ih =>
    obtain ⟨k, v⟩ := a
    have hk : k < name := h (k, v) List.mem_cons_self
    have hlt : ¬ name < k := fun hn => String.lt_irrefl _ (String.lt_trans hk hn)
    have hne : name ≠ k := fun he => String.lt_irrefl _ (he ▸ hk)
    simp only [putMember, if_neg hlt, if_neg hne, List.cons_append]
    rw [ih fun m hm => h m (List.mem_cons_of_mem _ hm)]

theorem foldl_putMember_of_ordered (members done : List (String × Document))
    (h : Ordered (done ++ members)) :
    members.foldl (fun done m => putMember m.1 m.2 done) done = done ++ members := by
  induction members generalizing done with
  | nil => simp
  | cons m ms ih =>
    have hm : ∀ a ∈ done, a.1 < m.1 := fun a ha =>
      (List.pairwise_append.1 h).2.2 a ha m List.mem_cons_self
    rw [List.foldl_cons, putMember_of_above hm, ih _ (by simpa using h)]
    simp

/-- Ordered members are left alone. -/
theorem orderMembers_of_ordered {members : List (String × Document)} (h : Ordered members) :
    orderMembers members = members := by
  simpa [orderMembers] using foldl_putMember_of_ordered members [] (by simpa using h)

theorem finite?_idem {d : Decimal} {v : Document} (h : finite? d = some v) : free? v = some v := by
  unfold finite? at h
  split at h
  · next hd => cases h; simp [free?, finite?, hd]
  · simp at h

theorem freeInteger?_idem {n : Int} {v : Document} (h : freeInteger? n = some v) :
    free? v = some v := by
  unfold freeInteger? at h
  split at h
  · next hn => cases h; simp [free?, freeInteger?, hn]
  · exact finite?_idem h

theorem freeMembers?_eq_some_iff {members : List (String × Document)} :
    freeMembers? members = some members ↔ ∀ m ∈ members, free? m.2 = some m.2 := by
  induction members with
  | nil => simp [freeMembers?]
  | cons m ms ih =>
    obtain ⟨k, x⟩ := m
    simp only [freeMembers?, List.forall_mem_cons, ← ih]
    cases free? x <;> cases freeMembers? ms <;> simp

theorem mem_orderMembers {members : List (String × Document)} {m : String × Document}
    (h : m ∈ orderMembers members) : m ∈ members := by
  have key : ∀ (ms done : List (String × Document)),
      m ∈ ms.foldl (fun done m => putMember m.1 m.2 done) done → m ∈ ms ∨ m ∈ done := by
    intro ms
    induction ms with
    | nil => intro done h; exact .inr h
    | cons a rest ih =>
      intro done h
      rcases ih _ h with h | h
      · exact .inl (List.mem_cons_of_mem _ h)
      · rcases mem_putMember h with h | h
        · exact .inl (h ▸ List.mem_cons_self)
        · exact .inr h
  simpa using key members [] h

mutual

/-- The form of a form is itself. -/
theorem free?_idem : (d v : Document) → free? d = some v → free? v = some v
  | .null, v, h | .bool _, v, h | .text _, v, h => by
    simp only [free?, Option.some.injEq] at h; subst h; rfl
  | .token _, _, h => by simp [free?] at h
  | .integer n, v, h => freeInteger?_idem (n := n) (by simpa [free?] using h)
  | .decimal d, v, h => finite?_idem (d := d) (by simpa [free?] using h)
  | .list items, v, h => by
    simp only [free?, Option.map_eq_some_iff] at h
    obtain ⟨ys, hy, rfl⟩ := h
    simp [free?, freeItems?_idem items ys hy]
  | .record members, v, h => by
    simp only [free?, Option.map_eq_some_iff] at h
    obtain ⟨ms, hm, rfl⟩ := h
    have hfree := freeMembers?_idem members ms hm
    have hall := freeMembers?_eq_some_iff.1 hfree
    have hord : freeMembers? (orderMembers ms) = some (orderMembers ms) :=
      freeMembers?_eq_some_iff.2 fun m h => hall m (mem_orderMembers h)
    simp [free?, hord, orderMembers_of_ordered (ordered_orderMembers ms)]

theorem freeItems?_idem : (xs ys : List Document) → freeItems? xs = some ys →
    freeItems? ys = some ys
  | [], ys, h => by simp only [freeItems?, Option.some.injEq] at h; subst h; rfl
  | x :: xs, ys, h => by
    simp only [freeItems?] at h
    cases hx : free? x with
    | none => simp [hx] at h
    | some y =>
      cases hs : freeItems? xs with
      | none => simp [hx, hs] at h
      | some zs =>
        simp only [hx, hs] at h
        cases h
        simp [freeItems?, free?_idem x y hx, freeItems?_idem xs zs hs]

theorem freeMembers?_idem : (ms ns : List (String × Document)) → freeMembers? ms = some ns →
    freeMembers? ns = some ns
  | [], ns, h => by simp only [freeMembers?, Option.some.injEq] at h; subst h; rfl
  | (k, x) :: ms, ns, h => by
    simp only [freeMembers?] at h
    cases hx : free? x with
    | none => simp [hx] at h
    | some y =>
      cases hs : freeMembers? ms with
      | none => simp [hx, hs] at h
      | some zs =>
        simp only [hx, hs] at h
        cases h
        simp [freeMembers?, free?_idem x y hx, freeMembers?_idem ms zs hs]

end

end Document

/-- A value of any shape, in the form in which it is kept. -/
structure FreeValue where
  document : Document
  free : document.free? = some document
deriving DecidableEq

namespace FreeValue

/-- Keeps a value of any shape. -/
def ofDocument? (d : Document) : Option FreeValue :=
  match h : d.free? with
  | some v => some ⟨v, Document.free?_idem d v h⟩
  | none => none

/-- The value that is a text. -/
def text (s : String) : FreeValue := ⟨.text s, rfl⟩

theorem ofDocument?_document (v : FreeValue) : ofDocument? v.document = some v := by
  obtain ⟨d, h⟩ := v
  simp only [ofDocument?]
  split
  · next w hw => simp only [h, Option.some.injEq] at hw; subst hw; rfl
  · next hn => simp [h] at hn

end FreeValue

end TxGateway
