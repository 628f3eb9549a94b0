import Mathlib.Data.List.Forall2
import Mathlib.Data.String.Basic
import Mathlib.Tactic.Tauto
import TxGateway.Settings.Load

namespace TxGateway

/-! # Values in the place of references

A text of settings is scanned once, from left to right. A reference is taken wherever one starts,
and the scan goes on right behind it; all other characters stay as they are. What a reference is and
what the scan does is said here without a scanner.

* `Reference.WellFormed` is the grammar of references, and `atFront?_eq_some_iff` says that the
  reader of references keeps to it.
* `Scanned` is the cut of a text, and `scanned_iff` says that `pieces` makes it.
* `Filled` is what becomes of a piece, and `Lacking` a reference of which nothing can become.
* `expand_fills_references` puts these together.
-/

namespace Reference

/-! ## One reference -/

/-- A name of up to 128 capital letters, digits and underscores, of which the first is no digit, and
perhaps a default of up to 256 characters, any but the closing brace. -/
structure WellFormed (r : Reference) : Prop where
  name_length : 1 ≤ r.name.length ∧ r.name.length ≤ 128
  name_head : ∀ c ∈ r.name.head?, ('A' ≤ c ∧ c ≤ 'Z') ∨ c = '_'
  name_tail : ∀ c ∈ r.name.tail, ('A' ≤ c ∧ c ≤ 'Z') ∨ ('0' ≤ c ∧ c ≤ '9') ∨ c = '_'
  default : ∀ d ∈ r.default, d.length ≤ 256 ∧ '\x7d' ∉ d

theorem isNameStart_iff {c : Char} :
    isNameStart c = true ↔ ('A' ≤ c ∧ c ≤ 'Z') ∨ c = '_' := by
  simp [isNameStart]

theorem isNameChar_iff {c : Char} :
    isNameChar c = true ↔ ('A' ≤ c ∧ c ≤ 'Z') ∨ ('0' ≤ c ∧ c ≤ '9') ∨ c = '_' := by
  simp only [isNameChar, Bool.or_eq_true, isNameStart_iff, Bool.and_eq_true, decide_eq_true_eq]
  tauto

section Span

variable {p : Char → Bool} {limit : Nat} {s front rest : List Char}

/-- The front that is split off is the longest one of the class. -/
theorem span?_eq_some_iff :
    span? p limit s = some (front, rest) ↔
      s = front ++ rest ∧ front.length ≤ limit ∧ (∀ c ∈ front, p c = true) ∧
        ∀ c ∈ rest.head?, p c = false := by
  induction s generalizing limit front rest with
  | nil =>
    rw [span?]
    constructor
    · intro h
      cases h
      simp
    · rintro ⟨h, -⟩
      rw [eq_comm, List.append_eq_nil_iff] at h
      rw [h.1, h.2]
  | cons c s ih =>
    by_cases hc : p c = true
    · -- the front has `c` in it, so it is not empty and the limit is not zero
      cases limit with
      | zero =>
        simp only [span?, hc, if_true]
        constructor
        · intro h
          cases h
        · rintro ⟨hs, hlength, -, hrest⟩
          have hfront : front = [] := List.eq_nil_of_length_eq_zero (Nat.le_zero.mp hlength)
          rw [hfront, List.nil_append] at hs
          rw [← hs] at hrest
          have hnot := hrest c rfl
          rw [hc] at hnot
          cases hnot
      | succ limit =>
        simp only [span?, hc, if_true, Option.map_eq_some_iff, Prod.mk.injEq, Prod.exists]
        constructor
        · rintro ⟨f, r, hspan, rfl, rfl⟩
          obtain ⟨rfl, hlength, hfront, hrest⟩ := ih.mp hspan
          refine ⟨rfl, Nat.succ_le_succ hlength, ?_, hrest⟩
          exact List.forall_mem_cons.mpr ⟨hc, hfront⟩
        · rintro ⟨hs, hlength, hfront, hrest⟩
          cases front with
          | nil =>
            rw [List.nil_append] at hs
            rw [← hs] at hrest
            have hnot := hrest c rfl
            rw [hc] at hnot
            cases hnot
          | cons d f =>
            rw [List.cons_append, List.cons.injEq] at hs
            obtain ⟨rfl, rfl⟩ := hs
            have hf := (List.forall_mem_cons.mp hfront).2
            exact ⟨f, rest, ih.mpr ⟨rfl, Nat.le_of_succ_le_succ hlength, hf, hrest⟩, rfl, rfl⟩
    · rw [span?.eq_def]
      simp only [hc, Bool.false_eq_true, if_false, Option.some.injEq, Prod.mk.injEq]
      constructor
      · rintro ⟨rfl, rfl⟩
        simpa using hc
      · rintro ⟨hs, -, hfront, -⟩
        cases front with
        | nil => exact ⟨rfl, hs⟩
        | cons d f =>
          rw [List.cons_append, List.cons.injEq] at hs
          rw [hs.1] at hc
          exact absurd (hfront d List.mem_cons_self) hc

end Span

/-- What stands between the name and the closing brace. -/
def written : Option (List Char) → List Char
  | some d => ':' :: '-' :: d
  | none => []

theorem source_eq (r : Reference) :
    r.source = '$' :: '\x7b' :: (r.name ++ (written r.default ++ ['\x7d'])) := by
  rcases r with ⟨name, _ | d⟩
  · simp [source, written]
  · simp [source, written]

variable {r : Reference} {c : Char} {name s rest : List Char}

theorem tail?_eq_some_iff :
    tail? name s = some (r, rest) ↔
      r.name = name ∧ (∀ d ∈ r.default, d.length ≤ 256 ∧ '\x7d' ∉ d) ∧
        s = written r.default ++ '\x7d' :: rest := by
  constructor
  · intro h
    unfold tail? at h
    split at h
    · cases h
      simp [written]
    · split at h
      · next s d b rest' hspan =>
        cases h
        obtain ⟨rfl, hlength, hd, hb⟩ := span?_eq_some_iff.mp hspan
        -- the span ends with a character, and only the closing brace ends it
        have hbrace : b = '\x7d' := by simpa using hb b rfl
        rw [hbrace]
        refine ⟨rfl, ?_, rfl⟩
        intro d' hd'
        rw [← Option.mem_some.mp hd']
        exact ⟨hlength, fun hmem => by simpa using hd _ hmem⟩
      · cases h
    · cases h
  · rintro ⟨rfl, hdefault, rfl⟩
    rcases r with ⟨name, _ | d⟩
    · rfl
    · obtain ⟨hlength, hmem⟩ := hdefault d rfl
      have hspan : span? (· != '\x7d') maxDefault (d ++ '\x7d' :: rest) =
          some (d, '\x7d' :: rest) := by
        refine span?_eq_some_iff.mpr ⟨rfl, hlength, ?_, ?_⟩
        · intro c hc
          have hne : c ≠ '\x7d' := fun heq => hmem (heq ▸ hc)
          simpa using hne
        · intro c hc
          rw [← Option.mem_some.mp hc]
          rfl
      show tail? name (':' :: '-' :: (d ++ '\x7d' :: rest)) = _
      rw [tail?, hspan]

/-- The reader of references takes the well-formed ones, as they are written. -/
theorem atFront?_eq_some_iff :
    atFront? s = some (r, rest) ↔ r.WellFormed ∧ s = r.source ++ rest := by
  constructor
  · intro h
    unfold atFront? at h
    split at h
    · next c s =>
      split at h
      · next hc =>
        split at h
        · next name s' hspan =>
          obtain ⟨rfl, hlength, hname, -⟩ := span?_eq_some_iff.mp hspan
          obtain ⟨hr, hdefault, rfl⟩ := tail?_eq_some_iff.mp h
          refine ⟨⟨?_, ?_, ?_, hdefault⟩, ?_⟩
          · rw [hr]
            exact ⟨Nat.succ_le_succ (Nat.zero_le _), Nat.succ_le_succ hlength⟩
          · rw [hr]
            intro d hd
            rw [← Option.mem_some.mp hd]
            exact isNameStart_iff.mp hc
          · rw [hr]
            intro d hd
            exact isNameChar_iff.mp (hname d hd)
          · rw [source_eq, hr]
            simp
        · cases h
      · cases h
    · cases h
  · rintro ⟨⟨⟨hpos, hlength⟩, hhead, htail, hdefault⟩, rfl⟩
    cases hname : r.name with
    | nil =>
      rw [hname] at hpos
      cases hpos
    | cons c name =>
      rw [hname] at hlength hhead htail
      have hstart : isNameStart c = true := isNameStart_iff.mpr (hhead c rfl)
      -- neither the sign before a default nor the closing brace belongs to a name
      have hspan : span? isNameChar (maxName - 1) (name ++ (written r.default ++ '\x7d' :: rest)) =
          some (name, written r.default ++ '\x7d' :: rest) := by
        refine span?_eq_some_iff.mpr ⟨rfl, Nat.le_of_succ_le_succ hlength, ?_, ?_⟩
        · intro d hd
          exact isNameChar_iff.mpr (htail d hd)
        · intro d hd
          cases hdef : r.default with
          | none =>
            rw [hdef] at hd
            rw [← Option.mem_some.mp hd]
            decide
          | some x =>
            rw [hdef] at hd
            rw [← Option.mem_some.mp hd]
            decide
      have htext : r.source ++ rest =
          '$' :: '\x7b' :: c :: (name ++ (written r.default ++ '\x7d' :: rest)) := by
        rw [source_eq, hname]
        simp
      rw [htext]
      simp only [atFront?, hstart, if_true, hspan]
      exact tail?_eq_some_iff.mpr ⟨hname, hdefault, rfl⟩

theorem atFront?_eq_none_iff :
    atFront? s = none ↔ ∀ r : Reference, r.WellFormed → ¬ r.source <+: s := by
  constructor
  · rintro h r hr ⟨rest, hrest⟩
    have hsome := atFront?_eq_some_iff.mpr ⟨hr, hrest.symm⟩
    rw [h] at hsome
    cases hsome
  · intro h
    cases hfront : atFront? s with
    | none => rfl
    | some x =>
      obtain ⟨r, rest⟩ := x
      obtain ⟨hr, hs⟩ := atFront?_eq_some_iff.mp hfront
      exact absurd ⟨rest, hs.symm⟩ (h r hr)

/-! ## The pieces of a text -/

theorem piecesOnto_append (acc acc' : List Piece) (s : List Char) :
    piecesOnto (acc ++ acc') s = acc'.reverse ++ piecesOnto acc s := by
  fun_induction piecesOnto acc s with
  | case1 acc =>
    rw [piecesOnto, List.reverse_append]
  | case2 acc c rest r after hfront ih =>
    rw [piecesOnto]
    split
    · next r' after' hfront' =>
      rw [hfront] at hfront'
      cases hfront'
      exact ih
    · next hnone =>
      rw [hfront] at hnone
      cases hnone
  | case3 acc c rest hnone ih =>
    rw [piecesOnto]
    split
    · next r' after' hfront' =>
      rw [hnone] at hfront'
      cases hfront'
    · exact ih

theorem pieces_nil : pieces [] = [] := by
  rw [pieces, piecesOnto]
  rfl

theorem pieces_of_reference (h : atFront? s = some (r, rest)) :
    pieces s = .reference r :: pieces rest := by
  cases s with
  | nil => cases h
  | cons c s =>
    have honto : piecesOnto [] (c :: s) = piecesOnto [.reference r] rest := by
      rw [piecesOnto]
      split
      · next hfront =>
        rw [h] at hfront
        cases hfront
        rfl
      · next hnone =>
        rw [h] at hnone
        cases hnone
    exact honto.trans (piecesOnto_append [] [.reference r] rest)

theorem pieces_of_plain (h : atFront? (c :: s) = none) : pieces (c :: s) = .plain c :: pieces s := by
  have honto : piecesOnto [] (c :: s) = piecesOnto [.plain c] s := by
    rw [piecesOnto]
    split
    · next hfront =>
      rw [h] at hfront
      cases hfront
    · rfl
  exact honto.trans (piecesOnto_append [] [.plain c] s)

/-- A text is scanned from left to right: a reference is taken wherever one starts, and the scan goes
on right behind it; a character at which none starts stands for itself. -/
inductive Scanned : List Char → List Piece → Prop
  | nil : Scanned [] []
  | reference {r : Reference} {rest : List Char} {ps : List Piece} (hr : r.WellFormed)
      (h : Scanned rest ps) : Scanned (r.source ++ rest) (.reference r :: ps)
  | plain {c : Char} {rest : List Char} {ps : List Piece}
      (hnone : ∀ r : Reference, r.WellFormed → ¬ r.source <+: c :: rest)
      (h : Scanned rest ps) : Scanned (c :: rest) (.plain c :: ps)

theorem scanned_pieces (s : List Char) : Scanned s (pieces s) := by
  induction hlength : s.length using Nat.strongRecOn generalizing s with
  | ind n ih =>
    cases s with
    | nil =>
      rw [pieces_nil]
      exact .nil
    | cons c rest =>
      rw [← hlength] at ih
      cases hfront : atFront? (c :: rest) with
      | none =>
        rw [pieces_of_plain hfront]
        exact .plain (atFront?_eq_none_iff.mp hfront) (ih _ (Nat.lt_succ_self _) rest rfl)
      | some x =>
        obtain ⟨r, after⟩ := x
        have hafter := ih _ (atFront?_length hfront) after rfl
        obtain ⟨hr, hs⟩ := atFront?_eq_some_iff.mp hfront
        rw [pieces_of_reference hfront, hs]
        exact .reference hr hafter

/-- There is one scan of a text, and it gives the pieces. -/
theorem scanned_iff {ps : List Piece} : Scanned s ps ↔ ps = pieces s := by
  constructor
  · intro h
    induction h with
    | nil => exact pieces_nil.symm
    | reference hr _ ih =>
      rw [pieces_of_reference (atFront?_eq_some_iff.mpr ⟨hr, rfl⟩), ih]
    | plain hnone _ ih => rw [pieces_of_plain (atFront?_eq_none_iff.mpr hnone), ih]
  · rintro rfl
    exact scanned_pieces s

/-- The pieces spell the text. -/
theorem Scanned.source_eq {ps : List Piece} (h : Scanned s ps) : ps.flatMap Piece.source = s := by
  induction h with
  | nil => rfl
  | reference hr _ ih => rw [List.flatMap_cons, ih, Piece.source]
  | plain hnone _ ih =>
    rw [List.flatMap_cons, ih]
    rfl

/-! ## Filling in values -/

variable {env : String → Option String}

/-- What a piece becomes: a character stays, and in the place of a reference stands the value of the
variable if it is set, be it empty, and else the default. -/
inductive Filled (env : String → Option String) : Piece → List Char → Prop
  | plain (c : Char) : Filled env (.plain c) [c]
  | set {r : Reference} {v : String} (h : env (String.ofList r.name) = some v) :
      Filled env (.reference r) v.toList
  | default {r : Reference} {d : List Char} (h : env (String.ofList r.name) = none)
      (hd : r.default = some d) : Filled env (.reference r) d

/-- The variable is not set and there is no default. -/
def Lacking (env : String → Option String) (r : Reference) : Prop :=
  env (String.ofList r.name) = none ∧ r.default = none

theorem Filled.not_lacking {r : Reference} {v : List Char} (h : Filled env (.reference r) v) :
    ¬ Lacking env r := by
  rintro ⟨henv, hdefault⟩
  cases h with
  | set h =>
    rw [henv] at h
    cases h
  | default h hd =>
    rw [hdefault] at hd
    cases hd

theorem not_lacking_of_filled {ps : List Piece} {vs : List (List Char)}
    (h : List.Forall₂ (Filled env) ps vs) (hr : .reference r ∈ ps) : ¬ Lacking env r := by
  induction h with
  | nil => cases hr
  | cons hv _ ih =>
    rcases List.mem_cons.mp hr with rfl | hr
    · exact hv.not_lacking
    · exact ih hr

end Reference

namespace Piece

open Reference

variable {env : String → Option String} {p : Piece}

theorem resolve_eq_ok_iff {v : List Char} : p.resolve env = .ok v ↔ Filled env p v := by
  constructor
  · intro h
    cases p with
    | plain c =>
      cases h
      exact .plain c
    | reference r =>
      cases henv : env (String.ofList r.name) with
      | some value =>
        simp only [resolve, value?, henv, Except.ok.injEq] at h
        rw [← h]
        exact .set henv
      | none =>
        cases hdefault : r.default with
        | some d =>
          simp only [resolve, value?, henv, hdefault, Except.ok.injEq] at h
          rw [← h]
          exact .default henv hdefault
        | none => simp [resolve, value?, henv, hdefault] at h
  · intro h
    cases h with
    | plain c => rfl
    | set h => simp [resolve, value?, h]
    | default h hd => simp [resolve, value?, h, hd]

theorem resolve_eq_error_iff {name : String} :
    p.resolve env = .error name ↔
      ∃ r, p = .reference r ∧ Lacking env r ∧ name = String.ofList r.name := by
  constructor
  · intro h
    cases p with
    | plain c => cases h
    | reference r =>
      cases henv : env (String.ofList r.name) with
      | some value => simp [resolve, value?, henv] at h
      | none =>
        cases hdefault : r.default with
        | some d => simp [resolve, value?, henv, hdefault] at h
        | none =>
          simp only [resolve, value?, henv, hdefault, Except.error.injEq] at h
          exact ⟨r, rfl, ⟨henv, hdefault⟩, h.symm⟩
  · rintro ⟨r, rfl, ⟨henv, hdefault⟩, rfl⟩
    simp [resolve, value?, henv, hdefault]

end Piece

namespace Reference

variable {env : String → Option String} {acc out : List Char} {ps : List Piece} {name : String}

theorem resolveOnto_eq_ok_iff :
    resolveOnto env acc ps = .ok out ↔
      ∃ vs, List.Forall₂ (Filled env) ps vs ∧ out = acc.reverse ++ vs.flatten := by
  induction ps generalizing acc with
  | nil =>
    simp only [resolveOnto, Except.ok.injEq, List.forall₂_nil_left_iff]
    constructor
    · rintro rfl
      exact ⟨[], rfl, by simp⟩
    · rintro ⟨vs, rfl, rfl⟩
      simp
  | cons p ps ih =>
    rw [resolveOnto]
    constructor
    · intro h
      split at h
      · next v hv =>
        obtain ⟨vs, hvs, rfl⟩ := ih.mp h
        refine ⟨v :: vs, .cons (Piece.resolve_eq_ok_iff.mp hv) hvs, ?_⟩
        simp
      · cases h
    · rintro ⟨_, hvs, rfl⟩
      cases hvs with
      | @cons _ v _ vs hv hvs =>
        rw [Piece.resolve_eq_ok_iff.mpr hv]
        refine ih.mpr ⟨vs, hvs, ?_⟩
        simp

/-- The reference that comes first among those that nothing can be put in for. -/
def FirstLacking (env : String → Option String) (ps : List Piece) (r : Reference) : Prop :=
  ∃ front rest, ps = front ++ .reference r :: rest ∧
    (∀ q, .reference q ∈ front → ¬ Lacking env q) ∧ Lacking env r

theorem resolveOnto_eq_error_iff :
    resolveOnto env acc ps = .error name ↔
      ∃ r, FirstLacking env ps r ∧ name = String.ofList r.name := by
  induction ps generalizing acc with
  | nil => simp [resolveOnto, FirstLacking]
  | cons p ps ih =>
    rw [resolveOnto]
    constructor
    · intro h
      split at h
      · next v hv =>
        obtain ⟨r, ⟨front, rest, rfl, hfront, hr⟩, rfl⟩ := ih.mp h
        refine ⟨r, ⟨p :: front, rest, rfl, ?_, hr⟩, rfl⟩
        intro q hq
        rcases List.mem_cons.mp hq with rfl | hq
        · exact (Piece.resolve_eq_ok_iff.mp hv).not_lacking
        · exact hfront q hq
      · next m hm =>
        cases h
        obtain ⟨r, rfl, hr, hname⟩ := Piece.resolve_eq_error_iff.mp hm
        refine ⟨r, ⟨[], ps, rfl, ?_, hr⟩, hname⟩
        intro q hq
        cases hq
    · rintro ⟨r, ⟨front, rest, hps, hfront, hr⟩, rfl⟩
      cases front with
      | nil =>
        rw [List.nil_append, List.cons.injEq] at hps
        rw [Piece.resolve_eq_error_iff.mpr ⟨r, hps.1, hr, rfl⟩]
      | cons q front =>
        rw [List.cons_append, List.cons.injEq] at hps
        obtain ⟨rfl, rfl⟩ := hps
        cases hp : p.resolve env with
        | ok v =>
          refine ih.mpr ⟨r, ⟨front, rest, rfl, ?_, hr⟩, rfl⟩
          intro q hq
          exact hfront q (List.mem_cons_of_mem _ hq)
        | error m =>
          obtain ⟨q, rfl, hq, -⟩ := Piece.resolve_eq_error_iff.mp hp
          exact absurd hq (hfront q List.mem_cons_self)

end Reference

/-! ## Texts of settings -/

namespace Settings

open Reference

variable {env : String → Option String} {text : String}

theorem expand_eq_ok_iff (h : text.utf8ByteSize ≤ 1024 * 1024) {out : String} :
    expand env text = .ok out ↔
      ∃ vs, List.Forall₂ (Filled env) (pieces text.toList) vs ∧ out = String.ofList vs.flatten := by
  have hsize : ¬ maxBytes < Text.byteLength text := Nat.not_lt_of_le h
  simp only [expand, hsize, if_false, resolve]
  constructor
  · intro hout
    cases hchars : resolveOnto env [] (pieces text.toList) with
    | ok chars =>
      obtain ⟨vs, hvs, rfl⟩ := resolveOnto_eq_ok_iff.mp hchars
      rw [hchars] at hout
      cases hout
      exact ⟨vs, hvs, rfl⟩
    | error name =>
      rw [hchars] at hout
      cases hout
  · rintro ⟨vs, hvs, rfl⟩
    rw [resolveOnto_eq_ok_iff.mpr ⟨vs, hvs, rfl⟩]
    rfl

theorem expand_eq_error_iff (h : text.utf8ByteSize ≤ 1024 * 1024) {e : LoadError} :
    expand env text = .error e ↔
      ∃ r, FirstLacking env (pieces text.toList) r ∧ e = .unset (String.ofList r.name) := by
  have hsize : ¬ maxBytes < Text.byteLength text := Nat.not_lt_of_le h
  simp only [expand, hsize, if_false, resolve]
  constructor
  · intro he
    cases hname : resolveOnto env [] (pieces text.toList) with
    | ok chars =>
      rw [hname] at he
      cases he
    | error name =>
      obtain ⟨r, hr, rfl⟩ := resolveOnto_eq_error_iff.mp hname
      rw [hname] at he
      cases he
      exact ⟨r, hr, rfl⟩
  · rintro ⟨r, hr, rfl⟩
    rw [resolveOnto_eq_error_iff.mpr ⟨r, hr, rfl⟩]
    rfl

/-- A text that is too large is refused unseen. Any other text is scanned once: what stands outside
references stays, each reference gives way to its value, and nothing that was put in is looked at
again. The text is refused if and only if nothing can be put in for some reference, and the first
such one is named. A refusal is an error of validation, and what loading the settings fails with. -/
theorem expand_fills_references (env : String → Option String) (text : String) :
    (1024 * 1024 < text.utf8ByteSize →
      expand env text = .error (.tooLarge text.utf8ByteSize)) ∧
    (text.utf8ByteSize ≤ 1024 * 1024 → ∃ ps,
      (∀ qs, Scanned text.toList qs ↔ qs = ps) ∧ ps.flatMap Piece.source = text.toList ∧
      (∀ out, expand env text = .ok out ↔
        ∃ vs, List.Forall₂ (Filled env) ps vs ∧ out = String.ofList vs.flatten) ∧
      (∀ e, expand env text = .error e ↔
        ∃ r, FirstLacking env ps r ∧ e = .unset (String.ofList r.name)) ∧
      ((∃ e, expand env text = .error e) ↔ ∃ r, .reference r ∈ ps ∧ Lacking env r)) ∧
    (∀ e, expand env text = .error e → e.label = "Validation" ∧ load env text = .error e) := by
  refine ⟨?_, ?_, ?_⟩
  · intro h
    simp [expand, maxBytes, h]
  · intro h
    refine ⟨pieces text.toList, fun qs => scanned_iff, (scanned_pieces _).source_eq,
      fun out => expand_eq_ok_iff h, fun e => expand_eq_error_iff h, ?_⟩
    constructor
    · rintro ⟨e, he⟩
      obtain ⟨r, ⟨front, rest, hps, -, hr⟩, -⟩ := (expand_eq_error_iff h).mp he
      exact ⟨r, by simp [hps], hr⟩
    · rintro ⟨r, hmem, hr⟩
      cases hresult : expand env text with
      | error e => exact ⟨e, rfl⟩
      | ok out =>
        obtain ⟨vs, hvs, -⟩ := (expand_eq_ok_iff h).mp hresult
        exact absurd hr (not_lacking_of_filled hvs hmem)
  · intro e he
    constructor
    · unfold expand at he
      dsimp only at he
      split at he
      · cases he
        rfl
      · cases hresolve : resolve env text with
        | ok out =>
          rw [hresolve] at he
          cases he
        | error name =>
          rw [hresolve] at he
          cases he
          rfl
    · unfold load
      rw [he]
      rfl

theorem utf8ByteSize_replicate (n : Nat) :
    (String.ofList (List.replicate n 'x')).utf8ByteSize = n := by
  rw [String.utf8ByteSize_ofList]
  induction n with
  | zero => rfl
  | succ n ih =>
    rw [List.replicate_succ, String.utf8Len_cons, ih]
    rfl

/-- The value of the first reference looks like a reference and is left alone; the second reference
starts within a text that is none. Of two variables that are not set the first is named, and a text
of one byte too many is refused. -/
theorem expand_fills_within_failed_start :
    let env := fun name => if name = "A" then some "$\x7bB\x7d" else none
    let text := "$\x7bA\x7d-$\x7bb$\x7bB:-x\x7d"
    let lacking := "$\x7bA\x7d$\x7bC\x7d$\x7bB\x7d"
    text.utf8ByteSize ≤ 1024 * 1024 ∧ expand env text = .ok "$\x7bB\x7d-$\x7bbx" ∧
      lacking.utf8ByteSize ≤ 1024 * 1024 ∧ expand env lacking = .error (.unset "C") ∧
      load env lacking = .error (.unset "C") ∧
      expand env (String.ofList (List.replicate (1024 * 1024 + 1) 'x')) =
        .error (.tooLarge (1024 * 1024 + 1)) := by
  intro env text lacking
  have hsize : text.utf8ByteSize ≤ 1024 * 1024 := by decide
  have hlacking : lacking.utf8ByteSize ≤ 1024 * 1024 := by decide
  let a : Reference := ⟨['A'], none⟩
  let b : Reference := ⟨['B'], some ['x']⟩
  let c : Reference := ⟨['C'], none⟩
  rcases expand_fills_references env text with ⟨_, hfilled, _⟩
  rcases hfilled hsize with ⟨ps, hscan, _, hok, _, _⟩
  rcases expand_fills_references env lacking with ⟨_, hrefused, hload⟩
  rcases hrefused hlacking with ⟨qs, hscan', _, _, herror, _⟩
  have hps : ps = [.reference a, .plain '-', .plain '$', .plain '\x7b', .plain 'b', .reference b] :=
    ((hscan _).mp (scanned_pieces _)).symm.trans (by decide +kernel)
  have hqs : qs = [.reference a, .reference c, .reference ⟨['B'], none⟩] :=
    ((hscan' _).mp (scanned_pieces _)).symm.trans (by decide +kernel)
  have hunset : expand env lacking = .error (.unset "C") := by
    refine (herror _).mpr ⟨c, ⟨[.reference a], [.reference ⟨['B'], none⟩], hqs, ?_, rfl, rfl⟩, rfl⟩
    intro q hq hlacking
    cases List.mem_singleton.mp hq
    cases hlacking.1
  refine ⟨hsize, (hok _).mpr ?_, hlacking, hunset, (hload _ hunset).2, ?_⟩
  · rw [hps]
    exact ⟨[_, _, _, _, _, _], .cons (.set rfl) (.cons (.plain _) (.cons (.plain _) (.cons (.plain _)
      (.cons (.plain _) (.cons (.default rfl rfl) .nil))))), by decide⟩
  · have hlarge := utf8ByteSize_replicate (1024 * 1024 + 1)
    rw [(expand_fills_references env _).1 (by rw [hlarge]; exact Nat.lt_succ_self _), hlarge]

end Settings

end TxGateway
