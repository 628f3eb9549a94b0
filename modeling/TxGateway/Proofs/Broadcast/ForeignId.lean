import TxGateway.Proofs.Broadcast.FirstAcceptance
import TxGateway.Proofs.Text.Digits
import TxGateway.Proofs.Wording

namespace TxGateway

/-! # Answers that name another transaction

A submission may be answered with the id of another transaction. An outlet's answer is then refused
with a message that quotes both ids, and refusals are sorted by the words of their messages, so the
caller's own id has a say. A miner's answer is not compared at all.

* `Wording.not_foundIn_of_isHex` says that no pattern lies in hexadecimal text.
* `Broadcast.Answered` is the answer to a submission, with the id that it names and with what it
  takes for it to pass if that id is foreign.
* `Broadcast.foreign_answer_passes_iff` says when such an answer counts as an acceptance.
-/

/-! ## Hexadecimal text -/

/-- No digit is an `n`, in upper or in lower case. -/
theorem Text.not_mem_lowerChar_of_hexDigit {c : Char} (h : (hexDigit? c).isSome = true) :
    'n' ∉ lowerChar c := by
  have hall : ∀ n < 0x80, (hexDigit? (Char.ofNat n)).isSome = true →
      'n' ∉ lowerChar (Char.ofNat n) := by decide
  have hc := hall c.toNat (toNat_lt_of_hexDigit h)
  rw [Char.ofNat_toNat] at hc
  exact hc h

/-- Every pattern has a letter in it that is no digit. -/
theorem Wording.not_foundIn_of_isHex {w : Wording} (hw : w ∈ all) {text : String}
    (h : Text.isHex text = true) : w.foundIn text = false := by
  refine Bool.eq_false_iff.mpr fun hfound => ?_
  obtain ⟨pattern, hp, hmentions⟩ := foundIn_eq_true_iff.mp hfound
  rw [mentions_iff (ascii_of_mem_patterns w hw pattern hp).2] at hmentions
  have hn : 'n' ∈ Text.plainLower text.toList :=
    hmentions.subset (n_mem_of_mem_patterns w hw pattern hp)
  obtain ⟨c, hc, hnc⟩ := List.mem_flatMap.mp hn
  simp only [Text.isHex, Bool.and_eq_true, List.all_eq_true] at h
  exact Text.not_mem_lowerChar_of_hexDigit (h.2 c hc) hnc

namespace Broadcast

variable {w : World} {start : Instant} {request : Request} {p : Provider} {d : Nat}
  {e : ProviderError}

/-! ## How a refusal is settled -/

/-- A refusal whose search finds nothing is an acceptance only by its words. -/
theorem taken_of_error_iff (h : request.submission p w start = .answer d (.error e))
    (hd : start + d ≤ request.deadline)
    (hunknown : ∀ r, (request.inquiry w (start + d)).value ≠ some (some r)) :
    Taken w start request p ↔ Wording.classify e.message = .alreadyKnown := by
  constructor
  · intro htaken
    cases htaken with
    | accepted h' hd' =>
      rw [h] at h'
      cases h'
    | known hrefused hwords =>
      rcases Refused.unique (.answered h hd) hrefused with ⟨rfl, _⟩
      exact hwords
    | found hrefused hwords hfound =>
      rcases Refused.unique (.answered h hd) hrefused with ⟨_, rfl⟩
      exact absurd hfound (hunknown _)
  · exact .known (.answered h hd)

/-- An answer that comes after the deadline is not heard. -/
theorem not_taken_of_late {reply : Reply Unit} (h : request.submission p w start = .answer d reply)
    (hlate : request.deadline < start + d) : ¬ Taken w start request p := by
  have hrefused : ∀ {e' t}, Refused w start request p e' t → e' = .late := by
    intro e' t hrefused
    cases hrefused with
    | answered h' hd' =>
      rw [h] at h'
      cases h'
      lia
    | late _ => rfl
  have hwords : Wording.classify ProviderError.late.message = .failure := by decide
  intro htaken
  cases htaken with
  | accepted h' hd' =>
    rw [h] at h'
    cases h'
    lia
  | known hr hknown =>
    rw [hrefused hr, hwords] at hknown
    cases hknown
  | found hr hquestionable _ =>
    rw [hrefused hr, hwords] at hquestionable
    cases hquestionable

theorem classify_eq_alreadyKnown_iff : Wording.classify e.message = .alreadyKnown ↔
    ∃ t ∈ e.words, Wording.known.foundIn t = true := by
  rw [← Wording.foundIn_message_iff (w := .known) (by decide) e, Wording.classify]
  split
  · next h => simp [h]
  · next h =>
    simp only [h]
    split <;> simp

/-! ## Answers with an id -/

/-- The provider answers the submission after some time and names a transaction. If that is another
one, the answer passes for an acceptance under the given condition. -/
inductive Answered (w : World) (start : Instant) (request : Request) :
    Provider → Nat → String → Bool → Prop
  | miner {m : Miner} {d : Nat} {s : Submission}
      (h : w start (.submit m request.hex) = .answer d (.ok s)) :
      Answered w start request (.miner m) d s.id
        (s.accepted || Wording.known.foundIn s.description)
  | outlet {o : Outlet} {name : String} {d : Nat} {reported : String}
      (h : w start (.publish o request.hex) = .answer d (.ok reported)) :
      Answered w start request (.outlet o name) d reported (Wording.known.foundIn request.id)

theorem Answered.submission_eq {reported : String} {passes : Bool}
    (h : Answered w start request p d reported passes) :
    ∃ reply, request.submission p w start = .answer d reply := by
  cases h with
  | miner h => exact ⟨_, Response.map_eq_answer.mpr ⟨_, h, rfl⟩⟩
  | outlet h => exact ⟨_, Response.map_eq_answer.mpr ⟨_, h, rfl⟩⟩

theorem taken_of_answered_iff {reported : String} {passes : Bool}
    (hanswer : Answered w start request p d reported passes)
    (hhex : Text.isHex reported = true) (hforeign : reported ≠ request.id)
    (hunknown : ∀ r, (request.inquiry w (start + d)).value ≠ some (some r)) :
    Taken w start request p ↔ start + d ≤ request.deadline ∧ passes = true := by
  by_cases hd : start + d ≤ request.deadline
  case neg =>
    obtain ⟨reply, hsubmission⟩ := hanswer.submission_eq
    exact iff_of_false (not_taken_of_late hsubmission (Nat.lt_of_not_le hd)) fun h => hd h.1
  rw [and_iff_right hd]
  cases hanswer with
  | @miner m _ s h =>
    -- the id in the answer has no part in this case
    have hsubmission : request.submission (.miner m) w start =
        .answer d (Provider.verdictOf s) := Response.map_eq_answer.mpr ⟨_, h, rfl⟩
    cases haccepted : s.accepted with
    | true =>
      have hok : Provider.verdictOf s = .ok () := by simp [Provider.verdictOf, haccepted]
      rw [hok] at hsubmission
      exact ⟨fun _ => rfl, fun _ => .accepted hsubmission hd⟩
    | false =>
      have herror : Provider.verdictOf s = .error (.rejected s.description) := by
        simp [Provider.verdictOf, haccepted]
      rw [herror] at hsubmission
      rw [taken_of_error_iff hsubmission hd hunknown, classify_eq_alreadyKnown_iff]
      simp [ProviderError.words]
  | @outlet o name _ _ h =>
    have hempty : reported ≠ "" := by
      rintro rfl
      exact absurd hhex (by decide)
    have herror : Provider.checkId request.id reported =
        .error (.wrongId request.id reported) := by
      simp [Provider.checkId, TxId.agrees, hempty, hforeign]
    have hsubmission : request.submission (.outlet o name) w start =
        .answer d (.error (.wrongId request.id reported)) :=
      Response.map_eq_answer.mpr ⟨_, h, herror⟩
    -- the message quotes both ids, and only the caller's own may read like words
    have hreported : Wording.known.foundIn reported = false :=
      Wording.not_foundIn_of_isHex (by decide) hhex
    rw [taken_of_error_iff hsubmission hd hunknown, classify_eq_alreadyKnown_iff]
    simp [ProviderError.words, hreported]

/-- An answer that names another transaction counts as an acceptance in two cases, if it comes in time
and no search finds the transaction: a miner takes the submission or refuses it as known, whatever it
names, and the id that the caller has given reads like words for a known transaction. The task of the
provider reports so, and if there is no other provider, so does the broadcast of a gateway. -/
theorem foreign_answer_passes_iff (w : World) (start : Instant) (request : Request) (p : Provider)
    (d : Nat) (reported : String) (passes : Bool) (hstart : start ≤ request.deadline)
    (hanswer : Answered w start request p d reported passes)
    (hhex : Text.isHex reported = true) (hforeign : reported ≠ request.id)
    (hunknown : ∀ r, (request.inquiry w (start + d)).value ≠ some (some r)) :
    ((∃ r, report? w start request p = some r ∧ r.isAcceptance = true) ↔
      start + d ≤ request.deadline ∧ passes = true) ∧
    ∀ (g : Gateway) (limit : Nat) (latch : Latch), g.providers .broadcast = [p] →
      TxId.isLongEnough request.id = true → Text.isBlankText request.hex = false →
      requestOf g start request.id request.hex limit = request →
      Decides (g.broadcast w start request.id request.hex limit latch).result.result
        (start + d ≤ request.deadline ∧ passes = true) := by
  have htaken := taken_of_answered_iff hanswer hhex hforeign hunknown
  refine ⟨(isAcceptance_iff_taken hstart).trans htaken, ?_⟩
  intro g limit latch hproviders hid hblank hrequest
  have hdecides := run_decides (w := w) (List.cons_ne_nil p []) hstart (.refl [p]) latch
  rw [broadcast_eq, if_pos ⟨hid, hblank⟩, hproviders, hrequest]
  simpa only [List.mem_singleton, exists_eq_left, htaken] using hdecides

/-- An explorer that takes every transaction for the same one. -/
def confused : Script where
  explorer := some { name := "confused", published := .ok "ffff", pace := { latency := 3 } }

/-- An id that reads like words for a known transaction. -/
def wordyId : String := "already known: " ++ Search.trialId

/-- The explorer names another transaction, and the broadcast succeeds by the words of the id. -/
theorem foreign_answer_passes_for_wordy_id :
    let g := Gateway.withoutMiners {} confused.connections
    let request := requestOf g 0 wordyId "00" 10
    Answered confused.world 0 request (.outlet .explorer "confused") 3 "ffff" true ∧
      Text.isHex "ffff" = true ∧ "ffff" ≠ request.id ∧ TxId.isLongEnough request.id = true ∧
      (g.broadcast confused.world 0 request.id request.hex 10 {}).result.result = .ok () := by
  intro g request
  have hanswer : Answered confused.world 0 request (.outlet .explorer "confused") 3 "ffff" true := by
    have hknown : Wording.known.foundIn request.id = true := by decide
    rw [← hknown]
    exact .outlet rfl
  have hforeign : "ffff" ≠ request.id := by decide
  have hid : TxId.isLongEnough request.id = true := by decide
  have hnone : (request.inquiry confused.world 3).value = some none := by cbv
  have hunknown : ∀ r, (request.inquiry confused.world (0 + 3)).value ≠ some (some r) := by
    intro r hr
    rw [Nat.zero_add, hnone] at hr
    cases hr
  obtain ⟨-, hgateway⟩ := foreign_answer_passes_iff confused.world 0 request
    (.outlet .explorer "confused") 3 "ffff" true (by decide) hanswer (by decide) hforeign hunknown
  have hdecides := hgateway g 10 {} (by decide) hid (by decide) rfl
  exact ⟨hanswer, by decide, hforeign, hid, hdecides.1.mpr ⟨by decide, rfl⟩⟩

/-- A miner, and its answer to every transaction. -/
def confusedMiner : Miner := { id := "miner", name := "confused", url := "http://miner.example" }

def confusedAnswer : Submission := ⟨"ffff", "miner", true, ""⟩

/-- The miner names another transaction, and the broadcast succeeds. -/
theorem foreign_answer_passes_from_miner :
    let script : Script := { miners := some [("confused", { submission := .ok confusedAnswer })] }
    let g : Gateway := ⟨{}, ⟨[confusedMiner], [confusedMiner], true⟩, Fee.standard,
      script.connections⟩
    g.providers .broadcast = [.miner confusedMiner] ∧
      script.world 0 (.submit confusedMiner "00") = .answer 0 (.ok confusedAnswer) ∧
      Text.isHex confusedAnswer.id = true ∧ confusedAnswer.id ≠ Search.trialId ∧
      TxId.isLongEnough Search.trialId = true ∧
      (g.broadcast script.world 0 Search.trialId "00" 10 {}).result.result = .ok () := by
  intro script g
  have hproviders : g.providers .broadcast = [.miner confusedMiner] := by decide
  have hid : TxId.isLongEnough Search.trialId = true := by decide
  refine ⟨hproviders, rfl, by decide, by decide, hid, ?_⟩
  have htaken : Taken script.world 0 (requestOf g 0 Search.trialId "00" 10)
      (.miner confusedMiner) := .accepted (d := 0) rfl (by decide)
  rw [broadcast_eq, if_pos ⟨hid, by decide⟩, hproviders]
  exact (run_decides (List.cons_ne_nil _ []) (Nat.zero_le _) (.refl _) {}).1.mpr
    ⟨_, List.mem_cons_self, htaken⟩

end Broadcast

end TxGateway
