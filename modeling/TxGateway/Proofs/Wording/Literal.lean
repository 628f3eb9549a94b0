import TxGateway.Proofs.Text.Sigma
import TxGateway.Proofs.Wording

namespace TxGateway.Wording

/-! # Patterns that stand in a message as they are

A message and a pattern are compared in lower case, each lower-cased by itself. A pattern that stands
in a message letter for letter is found by this, unless one of its capital sigmas ends a word in one
of the two and not in the other. The ASCII patterns of the two families are always found.

* `literal_pattern_found_iff` says where a pattern is found, and which patterns are found everywhere.
* `word_end_missed_within_word` is a pattern that is missed.
-/

/-- **A pattern that stands in a message is found where each of its capital sigmas has the form that
it has in the pattern alone.** It is found in every message in which it stands if and only if its
capital sigmas are settled within the pattern. -/
theorem literal_pattern_found_iff (pattern : String) :
    (∀ (patterns : List String) (before after : String), pattern ∈ patterns →
      Text.KeepsSigmas before.toList pattern.toList after.toList →
        anyIn patterns (before ++ pattern ++ after) = true) ∧
    ((∀ message : String, pattern.toList <:+: message.toList → anyIn [pattern] message = true) ↔
      Text.SigmasSettled pattern.toList) := by
  refine ⟨?place, ?everywhere⟩
  case place =>
    intro patterns before after hpattern hkeeps
    refine anyIn_eq_true_iff.mpr ⟨pattern, hpattern, ?_⟩
    rw [mentions_iff_infix_lower, String.toList_append, String.toList_append]
    exact hkeeps.infix_lower
  case everywhere =>
    have hfound : ∀ message, anyIn [pattern] message = true ↔
        Text.lower pattern.toList <:+: Text.lower message.toList := by
      intro message
      simp only [anyIn_eq_true_iff, List.mem_singleton, exists_eq_left, mentions_iff_infix_lower]
    simp only [hfound, Text.sigmasSettled_iff]
    constructor
    · intro h before after
      have hmessage := h (String.ofList (before ++ pattern.toList ++ after))
      rw [String.toList_ofList] at hmessage
      exact hmessage (List.infix_append _ _ _)
    · rintro h message ⟨before, after, hmessage⟩
      rw [← hmessage]
      exact h before after

/-- A pattern that ends a word is found where it ends a word, and it is missed elsewhere. -/
theorem word_end_found_at_word_end :
    Text.KeepsSigmas "Ο".toList "ΔΟΣ".toList ", ΑΒ".toList ∧
      anyIn ["already known", "ΔΟΣ"] ("Ο" ++ "ΔΟΣ" ++ ", ΑΒ") = true ∧
      ∃ message : String, "ΔΟΣ".toList <:+: message.toList ∧ anyIn ["ΔΟΣ"] message = false := by
  have hkeeps : Text.KeepsSigmas "Ο".toList "ΔΟΣ".toList ", ΑΒ".toList := by decide +kernel
  have hmissed : ¬ Text.SigmasSettled "ΔΟΣ".toList := by decide +kernel
  obtain ⟨hplace, heverywhere⟩ := literal_pattern_found_iff "ΔΟΣ"
  refine ⟨hkeeps, hplace _ "Ο" ", ΑΒ" (by decide) hkeeps, ?_⟩
  simpa using heverywhere.not.mpr hmissed

/-- A pattern that ends a word stands in a longer word, and is not found there. -/
theorem word_end_missed_within_word :
    ¬ ∀ (patterns : List String) (message : String),
      (∃ pattern ∈ patterns, pattern.toList <:+: message.toList) → anyIn patterns message = true := by
  intro h
  have hfound : anyIn ["ΑΣ"] "ΑΣΑ" = true := h _ _ ⟨"ΑΣ", by decide, by decide⟩
  exact absurd hfound (by decide +kernel)

end TxGateway.Wording
