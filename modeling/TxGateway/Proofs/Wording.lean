import Mathlib.Data.List.Infix
import TxGateway.Proofs.Text.LowerCase
import TxGateway.Provider.Error
import TxGateway.Provider.Wording

namespace TxGateway

/-! # Words inside a message

The message of a provider error wraps the provider's own words in a text of the gateway. Refusals
are sorted by the message, and here this comes to the same as sorting them by the words alone: no
pattern lies in the gateway's text, nor across the place where the two meet.

* `Text.Apart` holds of a text that no occurrence of a pattern starts in, whatever follows it;
  `Text.Separates` of one that none goes over.
* `Wording.mentions_iff` reads the search as one in character by character lower case, which goes
  through `++`.
* `Wording.foundIn_message_iff` finds a family of words in a message where it finds it in one of the
  provider's own words.
* `Wording.classify_by_own_words` is the class of every message.
-/

namespace Text

variable {p : List Char}

/-- No occurrence of `p` in a text that begins with `front` starts in `front`. -/
def Apart (front p : List Char) : Prop :=
  ¬ p <:+: front ∧ ∀ start ∈ p.inits, start ≠ [] → ¬ start <:+ front

instance (front p : List Char) : Decidable (Apart front p) :=
  inferInstanceAs (Decidable (_ ∧ _))

theorem Apart.infix_append_iff {front : List Char} (h : Apart front p) (rest : List Char) :
    p <:+: front ++ rest ↔ p <:+: rest := by
  rw [List.infix_append_iff_ne_nil]
  constructor
  · rintro (hfront | hrest | ⟨start, stop, hstart, _, hp, hsuffix, _⟩)
    · exact absurd hfront h.1
    · exact hrest
    · have hmem : start ∈ p.inits := (List.mem_inits start p).mpr ⟨stop, hp.symm⟩
      exact absurd hsuffix (h.2 start hmem hstart)
  · intro hrest
    exact .inr (.inl hrest)

theorem eq_nil_of_prefix_cons {c : Char} {rest : List Char} (h : c ∉ p) (hp : p <+: c :: rest) :
    p = [] := by
  rcases List.prefix_cons_iff.mp hp with hnil | ⟨t, ht, _⟩
  · exact hnil
  · exact absurd (ht ▸ List.mem_cons_self) h

/-- A text whose first character stops every occurrence of `p`, and none starts in the rest. -/
def Separates : List Char → List Char → Prop
  | [], _ => False
  | c :: tail, p => c ∉ p ∧ Apart tail p

instance : (separator p : List Char) → Decidable (Separates separator p)
  | [], _ => inferInstanceAs (Decidable False)
  | _ :: _, _ => inferInstanceAs (Decidable (_ ∧ _))

theorem Separates.infix_append_iff {separator : List Char} (h : Separates separator p)
    (front rest : List Char) :
    p <:+: front ++ (separator ++ rest) ↔ p <:+: front ∨ p <:+: rest := by
  cases separator with
  | nil => exact h.elim
  | cons c tail =>
    rw [List.cons_append, List.infix_append_iff_ne_nil]
    constructor
    · rintro (hfront | hrest | ⟨start, stop, _, hstop, hp, _, hprefix⟩)
      · exact .inl hfront
      · rcases List.infix_cons_iff.mp hrest with hprefix | hrest
        · left
          rw [eq_nil_of_prefix_cons h.1 hprefix]
          exact List.nil_infix
        · exact .inr ((h.2.infix_append_iff rest).mp hrest)
      · have hc : c ∉ stop := fun hc => h.1 (by rw [hp]; exact List.mem_append_right start hc)
        exact absurd (eq_nil_of_prefix_cons hc hprefix) hstop
    · rintro (hfront | hrest)
      · exact .inl hfront
      · exact .inr (.inl (List.infix_cons ((h.2.infix_append_iff rest).mpr hrest)))

end Text

open Text

namespace Wording

/-! ## Searching for a pattern -/

theorem mentions_iff_infix_lower (message pattern : String) : mentions message pattern = true ↔
    lower pattern.toList <:+: lower message.toList := by
  rw [mentions, occursIn_iff]

/-- A pattern of ASCII characters is searched for in the lower cases of the single characters. -/
theorem mentions_iff {pattern : String} (h : Ascii (lower pattern.toList)) (message : String) :
    mentions message pattern = true ↔
      lower pattern.toList <:+: plainLower message.toList := by
  rw [mentions_iff_infix_lower, infix_lower_iff h]

theorem anyIn_eq_true_iff {patterns : List String} {message : String} :
    anyIn patterns message = true ↔ ∃ pattern ∈ patterns, mentions message pattern = true := by
  rw [anyIn, List.any_eq_true]

theorem foundIn_eq_true_iff {w : Wording} {message : String} :
    w.foundIn message = true ↔ ∃ p ∈ w.patterns, mentions message p = true := by
  rw [foundIn, anyIn_eq_true_iff]

/-- The two texts differ in the case of ASCII letters only. -/
def IsVariant (variant pattern : String) : Prop :=
  variant.toList.map Char.toLower = pattern.toList.map Char.toLower

instance (variant pattern : String) : Decidable (IsVariant variant pattern) :=
  inferInstanceAs (Decidable (_ = _))

section

variable {pattern : String} (hp : Ascii (lower pattern.toList))
include hp

theorem mentions_append_iff {front : String}
    (hfront : Apart (plainLower front.toList) (lower pattern.toList)) (rest : String) :
    mentions (front ++ rest) pattern = true ↔ mentions rest pattern = true := by
  rw [mentions_iff hp, mentions_iff hp, String.toList_append, plainLower_append,
    hfront.infix_append_iff]

theorem mentions_separated_iff {separator : String}
    (h : Separates (plainLower separator.toList) (lower pattern.toList)) (front rest : String) :
    mentions (front ++ separator ++ rest) pattern = true ↔
      mentions front pattern = true ∨ mentions rest pattern = true := by
  simp only [mentions_iff hp, String.toList_append, plainLower_append, List.append_assoc]
  exact h.infix_append_iff _ _

/-- The text around a pattern does not hide it, nor does the case of its letters. -/
theorem mentions_of_variant {variant : String} (hascii : Ascii pattern.toList)
    (h : IsVariant variant pattern) (before after : String) :
    mentions (before ++ variant ++ after) pattern = true := by
  rw [mentions_iff hp, String.toList_append, String.toList_append, plainLower_append,
    plainLower_append, plainLower_of_variant hascii h]
  exact List.infix_append _ _ _

end

/-! ## The patterns of the two families -/

/-- What the search relies on: the patterns are ASCII, and so are their lower cases. -/
theorem ascii_of_mem_patterns : ∀ w ∈ all, ∀ p ∈ w.patterns,
    Ascii p.toList ∧ Ascii (lower p.toList) := by
  decide +kernel

/-- The texts that messages put before the provider's words. -/
def fronts : List String :=
  ["Network error: ", "Rejected: ", "Decode error: ", "Configuration error: ",
    "Transaction id mismatch: expected "]

theorem apart_of_mem_fronts : ∀ front ∈ fronts, ∀ w ∈ all, ∀ p ∈ w.patterns,
    Apart (plainLower front.toList) (lower p.toList) := by
  decide +kernel

/-- The texts that messages put between two others. -/
def separators : List String := [": ", ", got "]

theorem separates_of_mem_separators : ∀ separator ∈ separators, ∀ w ∈ all, ∀ p ∈ w.patterns,
    Separates (plainLower separator.toList) (lower p.toList) := by
  decide +kernel

theorem n_mem_of_mem_patterns : ∀ w ∈ all, ∀ p ∈ w.patterns, 'n' ∈ lower p.toList := by
  decide +kernel

variable {w : Wording} {pattern : String}

/-- A status line has no pattern in it, whatever the status. -/
theorem not_mentions_status (hw : w ∈ all) (hp : pattern ∈ w.patterns) (code : Nat) :
    ¬ mentions ("HTTP " ++ toString code) pattern = true := by
  intro h
  rw [mentions_iff (ascii_of_mem_patterns w hw pattern hp).2] at h
  have hn : 'n' ∈ plainLower ("HTTP " ++ toString code).toList :=
    h.subset (n_mem_of_mem_patterns w hw pattern hp)
  rw [String.toList_append, plainLower_append, plainLower_toString, List.mem_append] at hn
  rcases hn with hfront | hcode
  · exact absurd hfront (by decide)
  · exact absurd (isDigit_of_mem_toString hcode) (by decide)

/-- The messages that quote nobody have no pattern in them. -/
theorem not_mentions_fixed : ∀ message ∈ ["Transaction not found", "Timed out"],
    ∀ w ∈ all, ∀ p ∈ w.patterns, ¬ mentions message p = true := by
  decide +kernel

end Wording

namespace ProviderError

/-- What the provider itself said, as far as the message quotes it. -/
def words : ProviderError → List String
  | .unreachable reason => [reason]
  | .status _ body => [body]
  | .notFound => []
  | .rejected reason => [reason]
  | .wrongId expected actual => [expected, actual]
  | .unreadable reason => [reason]
  | .late => []
  | .misconfigured reason => [reason]

theorem message_status (code : Nat) (body : String) :
    (status code body).message = "HTTP " ++ toString code ++ ": " ++ body := rfl

theorem message_wrongId (expected actual : String) : (wrongId expected actual).message =
    "Transaction id mismatch: expected " ++ expected ++ ", got " ++ actual := rfl

end ProviderError

namespace Wording

variable {w : Wording} {pattern : String}

/-- **A message mentions a pattern if and only if the provider's own words do.** -/
theorem mentions_message_iff (hw : w ∈ all) (hp : pattern ∈ w.patterns) (e : ProviderError) :
    mentions e.message pattern = true ↔ ∃ t ∈ e.words, mentions t pattern = true := by
  have hascii := (ascii_of_mem_patterns w hw pattern hp).2
  have hfront : ∀ front ∈ fronts, ∀ rest,
      mentions (front ++ rest) pattern = true ↔ mentions rest pattern = true := by
    intro front hmem rest
    exact mentions_append_iff hascii (apart_of_mem_fronts front hmem w hw pattern hp) rest
  have hquote : ∀ front ∈ fronts, ∀ reason,
      mentions (front ++ reason) pattern = true ↔ ∃ t ∈ [reason], mentions t pattern = true := by
    intro front hmem reason
    rw [hfront front hmem reason]
    simp
  have hcolon := separates_of_mem_separators ": " (by decide) w hw pattern hp
  have hcomma := separates_of_mem_separators ", got " (by decide) w hw pattern hp
  cases e with
  | unreachable reason => exact hquote "Network error: " (by decide) reason
  | status code body =>
    have hstatus := not_mentions_status hw hp code
    rw [ProviderError.message_status, mentions_separated_iff hascii hcolon, or_iff_right hstatus]
    simp [ProviderError.words]
  | notFound =>
    have hfixed := not_mentions_fixed "Transaction not found" (by decide) w hw pattern hp
    exact iff_of_false hfixed (by simp [ProviderError.words])
  | rejected reason => exact hquote "Rejected: " (by decide) reason
  | wrongId expected actual =>
    have hexpected := hfront "Transaction id mismatch: expected " (by decide) expected
    rw [ProviderError.message_wrongId, mentions_separated_iff hascii hcomma, hexpected]
    simp [ProviderError.words]
  | unreadable reason => exact hquote "Decode error: " (by decide) reason
  | late =>
    have hfixed := not_mentions_fixed "Timed out" (by decide) w hw pattern hp
    exact iff_of_false hfixed (by simp [ProviderError.words])
  | misconfigured reason => exact hquote "Configuration error: " (by decide) reason

theorem foundIn_message_iff (hw : w ∈ all) (e : ProviderError) :
    w.foundIn e.message = true ↔ ∃ t ∈ e.words, w.foundIn t = true := by
  simp only [foundIn_eq_true_iff]
  constructor
  · rintro ⟨pattern, hp, h⟩
    rcases (mentions_message_iff hw hp e).mp h with ⟨t, ht, hmentions⟩
    exact ⟨t, ht, pattern, hp, hmentions⟩
  · rintro ⟨t, ht, pattern, hp, h⟩
    exact ⟨pattern, hp, (mentions_message_iff hw hp e).mpr ⟨t, ht, h⟩⟩

/-- The class of a message, told from the provider's own words. -/
theorem classify_message (e : ProviderError) :
    classify e.message =
      if e.words.any known.foundIn then .alreadyKnown
      else if e.words.any doubtful.foundIn then .questionable
      else .failure := by
  have hfound : ∀ w ∈ all, w.foundIn e.message = e.words.any w.foundIn := by
    intro w hw
    rw [Bool.eq_iff_iff, foundIn_message_iff hw e, List.any_eq_true]
  rw [classify, hfound known (by decide), hfound doubtful (by decide)]

theorem classify_message_of_words_eq {e : ProviderError} {t : String} (h : e.words = [t]) :
    classify e.message = classify t := by
  rw [classify_message, h, classify]
  simp only [List.any_cons, List.any_nil, Bool.or_false]

theorem foundIn_of_variant (hw : w ∈ all) (hp : pattern ∈ w.patterns) {variant : String}
    (h : IsVariant variant pattern) (before after : String) :
    w.foundIn (before ++ variant ++ after) = true := by
  rcases ascii_of_mem_patterns w hw pattern hp with ⟨hascii, hlower⟩
  exact foundIn_eq_true_iff.mpr ⟨pattern, hp, mentions_of_variant hlower hascii h before after⟩

/-- **Refusals are sorted by the provider's words and by nothing else.** A message that quotes one
text has the class of that text, and one that quotes two texts the class of the two together; a
message that quotes nothing is a failure. A pattern counts in whatever text and ASCII case it
stands, and words for a known transaction win. -/
theorem classify_by_own_words :
    (∀ (t : String) (code : Nat),
      classify (ProviderError.unreachable t).message = classify t ∧
      classify (ProviderError.status code t).message = classify t ∧
      classify (ProviderError.rejected t).message = classify t ∧
      classify (ProviderError.unreadable t).message = classify t ∧
      classify (ProviderError.misconfigured t).message = classify t) ∧
    (∀ expected actual : String,
      classify (ProviderError.wrongId expected actual).message =
        if known.foundIn expected ∨ known.foundIn actual then .alreadyKnown
        else if doubtful.foundIn expected ∨ doubtful.foundIn actual then .questionable
        else .failure) ∧
    classify ProviderError.notFound.message = .failure ∧
    classify ProviderError.late.message = .failure ∧
    (∀ w ∈ all, ∀ pattern ∈ w.patterns, ∀ variant before after : String,
      IsVariant variant pattern → w.foundIn (before ++ variant ++ after) = true) ∧
    ∀ t : String, known.foundIn t = true → doubtful.foundIn t = true →
      classify t = .alreadyKnown := by
  refine ⟨?one, ?two, ?_, ?_, ?variants, ?both⟩
  case one =>
    intro t code
    refine ⟨?_, ?_, ?_, ?_, ?_⟩ <;> exact classify_message_of_words_eq rfl
  case two =>
    intro expected actual
    rw [classify_message]
    simp only [ProviderError.words, List.any_cons, List.any_nil, Bool.or_false, Bool.or_eq_true]
  · exact classify_message ProviderError.notFound
  · exact classify_message ProviderError.late
  case variants =>
    intro w hw pattern hp variant before after h
    exact foundIn_of_variant hw hp h before after
  case both =>
    intro t hknown _
    rw [classify, if_pos hknown]

/-- Capitals, a capital sigma that becomes a final one and a capital I with a dot stand around the
pattern, and words that leave it open come first. -/
theorem refusal_known_despite_doubt :
    classify (ProviderError.status 400 ("Missing Inputs ΑΣ: " ++ "Already KNOWN" ++ "İ")).message =
      .alreadyKnown := by
  have hknown : known.foundIn ("Missing Inputs ΑΣ: " ++ "Already KNOWN" ++ "İ") = true :=
    classify_by_own_words.2.2.2.2.1 known (by decide) "already known" (by decide) "Already KNOWN"
      "Missing Inputs ΑΣ: " "İ" (by decide)
  have hdoubtful : doubtful.foundIn ("" ++ "Missing Inputs" ++ " ΑΣ: Already KNOWNİ") = true :=
    classify_by_own_words.2.2.2.2.1 doubtful (by decide) "missing inputs" (by decide)
      "Missing Inputs" "" " ΑΣ: Already KNOWNİ" (by decide)
  rw [(classify_by_own_words.1 _ 400).2.1]
  exact classify_by_own_words.2.2.2.2.2 _ hknown hdoubtful

end Wording

end TxGateway
