import Mathlib.Data.List.Infix
import Mathlib.Tactic.ByContra
import TxGateway.Text.LowerCase

namespace TxGateway.Text

open LowerCase

/-! # Capital sigmas in parts of a text

A capital sigma becomes a final one at the end of a word, so what it becomes depends on the text
around it. A part of a text is found in the lower case of the whole as long as each capital sigma in
it becomes what it becomes in the part alone.

* `lowerBetween` is the lower case of a part, and `lowerBetween_congr` says that it depends on the
  forms of the sigmas only.
* `KeepsSigmas` compares a part in its place with the part alone, and `KeepsSigmas.infix_lower`
  finds it.
* `Settled` tells of a sigma that no further text changes. `sigmasSettled_iff`: the parts in which
  all sigmas are settled are those that are found everywhere.
-/

/-! ## The forms of a capital sigma -/

/-- What a capital sigma between two texts becomes. The text before it comes with the nearest
character first. -/
def sigmaForm (before after : List Char) : Char :=
  if startsCased before && !startsCased after then 'ς' else 'σ'

/-- The character of a neighbouring text that a capital sigma looks at. -/
def facing (s : List Char) : Option Char := (s.dropWhile isIgnorable).head?

theorem startsCased_eq (s : List Char) : startsCased s = (facing s).any isCased := rfl

theorem facing_append (s t : List Char) : facing (s ++ t) = (facing s).or (facing t) := by
  induction s with
  | nil => rfl
  | cons c rest ih =>
    cases hc : isIgnorable c with
    | true => simpa [facing, hc] using ih
    | false => simp [facing, hc]

theorem facing_sigma (s : List Char) : facing ('Σ' :: s) = some 'Σ' := by
  have h : isIgnorable 'Σ' = false := by decide +kernel
  simp [facing, h]

theorem isSome_facing_append_sigma (u v : List Char) : (facing (u ++ 'Σ' :: v)).isSome = true := by
  rw [facing_append, facing_sigma]
  cases facing u <;> rfl

/-- A text without a character to look at has no capital sigma. -/
theorem ne_of_facing_eq_none {s u v : List Char} (h : facing s = none) : s ≠ u ++ 'Σ' :: v := by
  rintro rfl
  have hsome := isSome_facing_append_sigma u v
  rw [h] at hsome
  cases hsome

/-- What stands behind the character that a sigma looks at does not matter. -/
theorem startsCased_append {s : List Char} (h : (facing s).isSome = true) (t : List Char) :
    startsCased (s ++ t) = startsCased s := by
  obtain ⟨c, hc⟩ := Option.isSome_iff_exists.mp h
  rw [startsCased_eq, startsCased_eq, facing_append, hc, Option.some_or]

/-! ## Lower case between two texts -/

/-- The lower case of a text that stands between two others. -/
def lowerBetween (before : List Char) : List Char → List Char → List Char
  | [], _ => []
  | c :: rest, after =>
    if c = 'Σ' then sigmaForm before (rest ++ after) :: lowerBetween (c :: before) rest after
    else lowerChar c ++ lowerBetween (c :: before) rest after

theorem lowerBetween_sigma (before rest after : List Char) :
    lowerBetween before ('Σ' :: rest) after =
      sigmaForm before (rest ++ after) :: lowerBetween ('Σ' :: before) rest after :=
  if_pos rfl

theorem lowerBetween_of_ne {c : Char} (h : c ≠ 'Σ') (before rest after : List Char) :
    lowerBetween before (c :: rest) after = lowerChar c ++ lowerBetween (c :: before) rest after :=
  if_neg h

theorem lowerBetween_append (before s t after : List Char) :
    lowerBetween before (s ++ t) after =
      lowerBetween before s (t ++ after) ++ lowerBetween (s.reverse ++ before) t after := by
  induction s generalizing before with
  | nil => rfl
  | cons c rest ih =>
    rw [List.reverse_cons, List.append_assoc, List.singleton_append, List.cons_append]
    by_cases hc : c = 'Σ'
    · subst hc
      rw [lowerBetween_sigma, lowerBetween_sigma, ih, List.append_assoc, List.cons_append]
    · rw [lowerBetween_of_ne hc, lowerBetween_of_ne hc, ih, List.append_assoc]

theorem lowerAfter_eq (before s : List Char) : lowerAfter before s = lowerBetween before s [] := by
  induction s generalizing before with
  | nil => rfl
  | cons c rest ih =>
    by_cases hc : c = 'Σ'
    · subst hc
      rw [lowerBetween_sigma, List.append_nil, ← ih]
      exact if_pos rfl
    · rw [lowerBetween_of_ne hc, ← ih]
      exact if_neg hc

theorem lower_eq (s : List Char) : lower s = lowerBetween [] s [] := lowerAfter_eq [] s

/-- A part of a text makes a part of the lower case. -/
theorem lower_append_append (before s after : List Char) :
    lower (before ++ s ++ after) = lowerBetween [] before (s ++ after) ++
      lowerBetween before.reverse s after ++
        lowerBetween (s.reverse ++ before.reverse) after [] := by
  rw [lower_eq, lowerBetween_append, lowerBetween_append, List.append_nil, List.append_nil,
    List.reverse_append, List.append_nil]

variable {s before after before' after' : List Char}

/-- Two places make the same of a text if they make the same of each capital sigma in it. -/
theorem lowerBetween_congr (h : ∀ u v, s = u ++ 'Σ' :: v →
      sigmaForm (u.reverse ++ before) (v ++ after) =
        sigmaForm (u.reverse ++ before') (v ++ after')) :
    lowerBetween before s after = lowerBetween before' s after' := by
  induction s generalizing before before' with
  | nil => rfl
  | cons c rest ih =>
    have hrest :
        lowerBetween (c :: before) rest after = lowerBetween (c :: before') rest after' := by
      refine ih fun u v huv => ?_
      have hc := h (c :: u) v (congrArg (c :: ·) huv)
      rwa [List.reverse_cons, List.append_assoc, List.append_assoc] at hc
    by_cases hc : c = 'Σ'
    · subst hc
      rw [lowerBetween_sigma, lowerBetween_sigma, hrest]
      exact congrArg (· :: _) (h [] rest rfl)
    · rw [lowerBetween_of_ne hc, lowerBetween_of_ne hc, hrest]

/-! ## Parts that keep their sigmas -/

/-- In its place between two others, a text has every capital sigma become what it becomes in the
text alone. -/
def KeepsSigmas (before s after : List Char) : Prop :=
  ∀ u v, s = u ++ 'Σ' :: v →
    sigmaForm (u.reverse ++ before.reverse) (v ++ after) = sigmaForm u.reverse v

/-- Whatever else stands around, a capital sigma between two texts becomes the same: it looks at a
character of either text, or at one that rules out a final sigma. -/
def Settled (before after : List Char) : Prop :=
  (facing before).isSome ∧ (facing after).isSome ∨
    (facing before).any (!isCased ·) ∨ (facing after).any isCased

instance (before after : List Char) : Decidable (Settled before after) :=
  inferInstanceAs (Decidable (_ ∨ _))

/-- Every capital sigma of a text is settled within the text. -/
def SigmasSettled (s : List Char) : Prop := ∀ u v, s = u ++ 'Σ' :: v → Settled u.reverse v

/-- The capital sigmas of a text by their positions. -/
theorem forall_sigma_iff {P : List Char → List Char → Prop} :
    (∀ u v, s = u ++ 'Σ' :: v → P u v) ↔
      ∀ i < s.length, s[i]? = some 'Σ' → P (s.take i) (s.drop (i + 1)) := by
  constructor
  · intro h i hi hsigma
    obtain ⟨_, hc⟩ := List.getElem?_eq_some_iff.mp hsigma
    refine h _ _ ?_
    rw [← hc, List.cons_getElem_drop_succ, List.take_append_drop]
  · rintro h u v rfl
    simpa using h u.length (by simp) (by simp)

instance (before s after : List Char) : Decidable (KeepsSigmas before s after) :=
  decidable_of_iff _ forall_sigma_iff.symm

instance (s : List Char) : Decidable (SigmasSettled s) :=
  decidable_of_iff _ forall_sigma_iff.symm

theorem KeepsSigmas.infix_lower (h : KeepsSigmas before s after) :
    lower s <:+: lower (before ++ s ++ after) := by
  have hs : lowerBetween before.reverse s after = lower s := by
    rw [lower_eq]
    refine lowerBetween_congr fun u v huv => ?_
    rw [List.append_nil, List.append_nil]
    exact h u v huv
  rw [lower_append_append, hs]
  exact List.infix_append _ _ _

variable {u v : List Char}

theorem Settled.sigmaForm_append (h : Settled u v) (before after : List Char) :
    sigmaForm (u ++ before) (v ++ after) = sigmaForm u v := by
  have hform : (startsCased (u ++ before) && !startsCased (v ++ after)) =
      (startsCased u && !startsCased v) := by
    unfold Settled at h
    simp only [startsCased_eq, facing_append]
    match facing u, facing v, h with
    | some b, some a, _ => rfl
    | some b, none, h => simp [show isCased b = false by simpa using h]
    | none, some a, h => simp [show isCased a = true by simpa using h]
    | none, none, h => simp at h
  rw [sigmaForm, sigmaForm, hform]

theorem SigmasSettled.keepsSigmas (h : SigmasSettled s) (before after : List Char) :
    KeepsSigmas before s after :=
  fun u v huv => (h u v huv).sigmaForm_append _ _

/-! ## Parts with a sigma that is not settled -/

/-- A sigma that is not settled becomes another one next to a letter. -/
theorem exists_changed (h : ¬ Settled u.reverse v) : ∃ before after : List Char,
    sigmaForm (u.reverse ++ before.reverse) (v ++ after) ≠ sigmaForm u.reverse v ∧
      (before = [] ∨ before = ['A'] ∧ facing u.reverse = none) ∧
      (after = [] ∨ after = ['A'] ∧ facing v = none) := by
  have hletter : startsCased ['A'] = true := by decide +kernel
  unfold Settled at h
  cases hu : facing u.reverse with
  | none =>
    -- alone the sigma begins a word, and behind a letter it ends one
    have halone : startsCased u.reverse = false := by rw [startsCased_eq, hu, Option.any_none]
    have hbehind : startsCased (u.reverse ++ ['A']) = true := by
      rw [startsCased_eq, facing_append, hu, Option.none_or, ← startsCased_eq, hletter]
    have hv : startsCased v = false := by
      rw [startsCased_eq]
      cases hv : facing v with
      | none => rfl
      | some a => simpa [hu, hv] using h
    refine ⟨['A'], [], ?_, .inr ⟨rfl, rfl⟩, .inl rfl⟩
    simp [sigmaForm, hbehind, halone, hv]
  | some b =>
    cases hv : facing v with
    | some a => simp [hu, hv] at h
    | none =>
      -- alone the sigma ends a word, and before a letter it does not
      have hb : isCased b = true := by simpa [hu, hv] using h
      have hu' : startsCased u.reverse = true := by rw [startsCased_eq, hu, Option.any_some, hb]
      have halone : startsCased v = false := by rw [startsCased_eq, hv, Option.any_none]
      have hbefore : startsCased (v ++ ['A']) = true := by
        rw [startsCased_eq, facing_append, hv, Option.none_or, ← startsCased_eq, hletter]
      refine ⟨[], ['A'], ?_, .inl rfl, .inr ⟨rfl, rfl⟩⟩
      simp [sigmaForm, hbefore, halone, hu']

/-- Where a sigma looks beyond a text, no other sigma of the text does. -/
theorem lowerBetween_around_sigma (hbefore : before = [] ∨ facing u.reverse = none)
    (hafter : after = [] ∨ facing v = none) :
    lowerBetween before (u ++ 'Σ' :: v) after =
      lowerBetween [] u ('Σ' :: v) ++
        sigmaForm (u.reverse ++ before) (v ++ after) :: lowerBetween ('Σ' :: u.reverse) v [] := by
  have hu : lowerBetween before u ('Σ' :: (v ++ after)) = lowerBetween [] u ('Σ' :: v) := by
    refine lowerBetween_congr fun x y hxy => ?_
    rcases hbefore with rfl | hnone
    · rw [← List.cons_append, ← List.append_assoc, sigmaForm, sigmaForm,
        startsCased_append (isSome_facing_append_sigma y v)]
    · have hrev : u.reverse = y.reverse ++ 'Σ' :: x.reverse := by simp [hxy]
      exact absurd hrev (ne_of_facing_eq_none hnone)
  have hv : lowerBetween ('Σ' :: (u.reverse ++ before)) v after =
      lowerBetween ('Σ' :: u.reverse) v [] := by
    refine lowerBetween_congr fun x y hxy => ?_
    rcases hafter with rfl | hnone
    · rw [← List.cons_append, ← List.append_assoc, sigmaForm, sigmaForm,
        startsCased_append (isSome_facing_append_sigma x.reverse u.reverse)]
    · exact absurd hxy (ne_of_facing_eq_none hnone)
  rw [lowerBetween_append, lowerBetween_sigma, List.cons_append, hu, hv]

/-- A text is no part of what it becomes when one of its characters is replaced. -/
theorem not_infix_of_replaced {x y front back : List Char} {c d : Char} (hne : d ≠ c)
    (hfront : c ∉ front) (hback : c ∉ back) :
    ¬ (x ++ c :: y) <:+: front ++ (x ++ d :: y) ++ back := by
  intro h
  have hcount := h.sublist.count_le c
  simp only [List.count_append, List.count_cons_self, List.count_cons_of_ne hne,
    List.count_eq_zero_of_not_mem hfront, List.count_eq_zero_of_not_mem hback] at hcount
  omega

/-- The lower case of a text is lost where a letter next to the text changes one sigma of it. -/
theorem not_lower_infix
    (hne : sigmaForm (u.reverse ++ before.reverse) (v ++ after) ≠ sigmaForm u.reverse v)
    (hbefore : before = [] ∨ before = ['A'] ∧ facing u.reverse = none)
    (hafter : after = [] ∨ after = ['A'] ∧ facing v = none) :
    ¬ lower (u ++ 'Σ' :: v) <:+: lower (before ++ (u ++ 'Σ' :: v) ++ after) := by
  have hform : ∀ b a, sigmaForm b a ∉ ['a'] := by
    intro b a
    unfold sigmaForm
    split <;> decide
  have hfront : ∀ b a rest, sigmaForm b a ∉ lowerBetween [] before rest := by
    intro b a rest
    rcases hbefore with rfl | ⟨rfl, -⟩
    · exact List.not_mem_nil
    · exact hform b a
  have hback : ∀ b a front, sigmaForm b a ∉ lowerBetween front after [] := by
    intro b a front
    rcases hafter with rfl | ⟨rfl, -⟩
    · exact List.not_mem_nil
    · exact hform b a
  have halone : lower (u ++ 'Σ' :: v) = lowerBetween [] u ('Σ' :: v) ++
      sigmaForm u.reverse v :: lowerBetween ('Σ' :: u.reverse) v [] := by
    rw [lower_eq, lowerBetween_around_sigma (.inl rfl) (.inl rfl), List.append_nil, List.append_nil]
  have hleft : before.reverse = [] ∨ facing u.reverse = none :=
    hbefore.imp List.reverse_eq_nil_iff.mpr And.right
  rw [lower_append_append, halone, lowerBetween_around_sigma hleft (hafter.imp_right And.right)]
  exact not_infix_of_replaced hne (hfront _ _ _) (hback _ _ _)

/-- **A text is found wherever it stands if and only if its capital sigmas are settled.** -/
theorem sigmasSettled_iff : SigmasSettled s ↔
    ∀ before after, lower s <:+: lower (before ++ s ++ after) := by
  constructor
  · intro h before after
    exact (h.keepsSigmas before after).infix_lower
  · rintro h u v rfl
    by_contra hsettled
    obtain ⟨before, after, hne, hbefore, hafter⟩ := exists_changed hsettled
    exact not_lower_infix hne hbefore hafter (h before after)

end TxGateway.Text
