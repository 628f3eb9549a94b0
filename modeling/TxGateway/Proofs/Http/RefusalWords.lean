import Mathlib.Data.List.TakeWhile
import TxGateway.Proofs.Broadcast.ForeignId
import TxGateway.Proofs.Http.Refusal
import TxGateway.Proofs.Text.Utf8

namespace TxGateway

/-! # The words of a failed response

A provider that refuses a transaction says why in the body of a response that is no success. The
refusal is sorted by the message of an error, and here it is followed from the bytes of the body to
that message. On the way the text is trimmed and put behind a status; a node proxy takes a text that
begins as an object does for the answer of a node, and keeps the message of the node's error only.

* `Wording.classify_trim`: blanks around a text have no part in its class.
* `Http.Quotes` relates the text of a failed response to the error it comes to, and to the words in
  it that are the provider's own.
* `Http.refusal_sorted_by_words` says that the words, and nothing else, decide about the broadcast.
-/

/-! ## Blanks around a text -/

namespace Text

theorem exists_trim (s : String) : ∃ front back : List Char,
    (∀ c ∈ front, isBlank c = true) ∧ (∀ c ∈ back, isBlank c = true) ∧
      s.toList = front ++ ((trim s).toList ++ back) := by
  let rest := s.toList.dropWhile isBlank
  refine ⟨s.toList.takeWhile isBlank, (rest.reverse.takeWhile isBlank).reverse, ?_, ?_, ?_⟩
  · exact fun c hc => List.mem_takeWhile_imp hc
  · exact fun c hc => List.mem_takeWhile_imp (List.mem_reverse.mp hc)
  · have hrest : rest = (rest.reverse.dropWhile isBlank).reverse ++
        (rest.reverse.takeWhile isBlank).reverse := by
      rw [← List.reverse_append, List.takeWhile_append_dropWhile, List.reverse_reverse]
    rw [trim, trimOf, String.toList_ofList, ← hrest, List.takeWhile_append_dropWhile]

/-- The code points of the blanks. -/
def blankCodes : List Nat :=
  [0x9, 0xA, 0xB, 0xC, 0xD, 0x20, 0x85, 0xA0, 0x1680, 0x2000, 0x2001, 0x2002, 0x2003, 0x2004,
    0x2005, 0x2006, 0x2007, 0x2008, 0x2009, 0x200A, 0x2028, 0x2029, 0x202F, 0x205F, 0x3000]

theorem toNat_mem_blankCodes {c : Char} (h : isBlank c = true) : c.toNat ∈ blankCodes := by
  simp only [isBlank, Bool.or_eq_true, Bool.and_eq_true, decide_eq_true_eq, beq_iff_eq] at h
  simp only [blankCodes, List.mem_cons, List.not_mem_nil]
  omega

/-- A blank has no case. -/
theorem lowerChar_of_isBlank {c : Char} (h : isBlank c = true) : lowerChar c = [c] := by
  have hall : ∀ n ∈ blankCodes, lowerChar (Char.ofNat n) = [Char.ofNat n] := by decide +kernel
  have hc := hall c.toNat (toNat_mem_blankCodes h)
  rwa [Char.ofNat_toNat] at hc

theorem plainLower_of_blank {s : List Char} (h : ∀ c ∈ s, isBlank c = true) : plainLower s = s := by
  rw [plainLower, List.flatMap_congr fun c hc => lowerChar_of_isBlank (h c hc)]
  exact List.flatMap_singleton' s

/-- The text begins with a character, and that is no blank. -/
def SolidStart (p : List Char) : Prop := ∃ c ∈ p.head?, isBlank c = false

instance (p : List Char) : Decidable (SolidStart p) :=
  match p with
  | [] => .isFalse nofun
  | c :: _ => decidable_of_iff (isBlank c = false) (by simp [SolidStart])

variable {p : List Char}

theorem SolidStart.apart_blank (h : SolidStart p) {front : List Char}
    (hfront : ∀ c ∈ front, isBlank c = true) : Apart front p := by
  obtain ⟨c, hc, hsolid⟩ := h
  have hnot : c ∉ front := fun hmem => by simp [hfront c hmem] at hsolid
  have hhead : ∀ start, start ≠ [] → start <+: p → c ∈ start := by
    intro start hne hprefix
    obtain ⟨rest, rfl⟩ := hprefix
    cases start with
    | nil => exact absurd rfl hne
    | cons d tail =>
      cases hc
      exact List.mem_cons_self
  have hp : p ≠ [] := fun hnil => by simp [hnil] at hc
  refine ⟨fun hin => hnot (hin.subset (hhead p hp List.prefix_rfl)), ?_⟩
  intro start hstart hne hsuffix
  exact hnot (hsuffix.subset (hhead start hne ((List.mem_inits start p).mp hstart)))

/-- Blanks on both sides do not matter to a search for a text that has none at its ends. -/
theorem infix_between_blanks_iff (hstart : SolidStart p) (hend : SolidStart p.reverse)
    {front back : List Char} (hfront : ∀ c ∈ front, isBlank c = true)
    (hback : ∀ c ∈ back, isBlank c = true) (s : List Char) :
    p <:+: front ++ (s ++ back) ↔ p <:+: s := by
  have hback' : ∀ c ∈ back.reverse, isBlank c = true :=
    fun c hc => hback c (List.mem_reverse.mp hc)
  rw [(hstart.apart_blank hfront).infix_append_iff, ← List.reverse_infix, List.reverse_append,
    (hend.apart_blank hback').infix_append_iff, List.reverse_infix]

end Text

namespace Wording

theorem solid_of_mem_patterns : ∀ w ∈ all, ∀ p ∈ w.patterns,
    Text.SolidStart (Text.lower p.toList) ∧ Text.SolidStart (Text.lower p.toList).reverse := by
  decide +kernel

variable {w : Wording} {pattern : String}

theorem mentions_trim_iff (hw : w ∈ all) (hp : pattern ∈ w.patterns) (t : String) :
    mentions (Text.trim t) pattern = true ↔ mentions t pattern = true := by
  have hascii := (ascii_of_mem_patterns w hw pattern hp).2
  obtain ⟨hstart, hend⟩ := solid_of_mem_patterns w hw pattern hp
  obtain ⟨front, back, hfront, hback, ht⟩ := Text.exists_trim t
  rw [mentions_iff hascii, mentions_iff hascii, ht, Text.plainLower_append, Text.plainLower_append,
    Text.plainLower_of_blank hfront, Text.plainLower_of_blank hback,
    Text.infix_between_blanks_iff hstart hend hfront hback]

/-- Two texts that mention the same patterns are of the same class. -/
theorem classify_congr {t u : String}
    (h : ∀ w ∈ all, ∀ p ∈ w.patterns, (mentions t p = true ↔ mentions u p = true)) :
    classify t = classify u := by
  have hfound : ∀ w ∈ all, w.foundIn t = w.foundIn u := by
    intro w hw
    rw [Bool.eq_iff_iff, foundIn_eq_true_iff, foundIn_eq_true_iff]
    exact exists_congr fun p => and_congr_right fun hp => h w hw p hp
  rw [classify, classify, hfound known (by decide), hfound doubtful (by decide)]

/-- The class of a text does not depend on the blanks around it. -/
theorem classify_trim (t : String) : classify (Text.trim t) = classify t :=
  classify_congr fun _ hw _ hp => mentions_trim_iff hw hp t

/-- A number has no letter in it that every pattern has. -/
theorem not_mentions_int (hw : w ∈ all) (hp : pattern ∈ w.patterns) (code : Int) :
    ¬ mentions (toString code) pattern = true := by
  have hdigits : ∀ m : Nat, 'n' ∉ Text.plainLower (toString m).toList := by
    intro m hn
    rw [Text.plainLower_toString] at hn
    exact absurd (Text.isDigit_of_mem_toString hn) (by decide)
  have hnot : 'n' ∉ Text.plainLower (toString code).toList := by
    cases code with
    | ofNat m => exact hdigits m
    | negSucc m =>
      have hminus : toString (Int.negSucc m) = "-" ++ toString (m + 1) := rfl
      rw [hminus, String.toList_append, Text.plainLower_append, List.mem_append, not_or]
      exact ⟨by decide, hdigits (m + 1)⟩
  intro h
  rw [mentions_iff (ascii_of_mem_patterns w hw pattern hp).2] at h
  exact hnot (h.subset (n_mem_of_mem_patterns w hw pattern hp))

/-- A code before a message has no part in its class. -/
theorem classify_coded (code : Int) (message : String) :
    classify s!"{code}: {message}" = classify message := by
  refine classify_congr fun w hw p hp => ?_
  have hcolon := separates_of_mem_separators ": " (by decide) w hw p hp
  have htext : s!"{code}: {message}" = toString code ++ ": " ++ message := rfl
  rw [htext, mentions_separated_iff (ascii_of_mem_patterns w hw p hp).2 hcolon,
    or_iff_right (not_mentions_int hw hp code)]

end Wording

/-! ## Errors -/

/-- An error that a submission is answered with is passed on. -/
theorem Provider.submission_of_error (p : Provider) {hex : String} {w : World} {now : Instant}
    {d : Nat} {e : ProviderError} (id : String)
    (h : w now (p.submitCall hex) = .answer d (.error e)) :
    p.submission id hex w now = .answer d (.error e) := by
  cases p with
  | miner m => exact Response.map_eq_answer.mpr ⟨_, h, rfl⟩
  | outlet o name => exact Response.map_eq_answer.mpr ⟨_, h, rfl⟩

namespace Http

/-! ## What is read of a failed response -/

/-- The text in the body of a response; some statuses come without a body. -/
def bodyText (status : Nat) (body : List UInt8) : String :=
  Text.Utf8.decodeLossy (if hasNoBody status then [] else body)

/-- A text comes through, if the status has a body and the text no byte-order mark in front. -/
theorem bodyText_encode {status : Nat} {text : String} (hbody : hasNoBody status = false)
    (hmark : text.toList.head? ≠ some '\uFEFF') :
    bodyText status (Text.Utf8.encode text) = text := by
  rw [bodyText, hbody]
  exact Text.Utf8.decodeLossy_encode hmark

theorem read_of_failed_text {status : Nat} (hfinal : isInterim status = false)
    (hfailed : isSuccess status = false) (hfound : status ≠ 404) (body : List UInt8) :
    (Delivery.response status body true).read =
      .error (.status status (Text.trim (bodyText status body))) := by
  rw [Delivery.read_of_failed hfinal hfailed, refusal, bodyText]
  cases hasNoBody status with
  | true => simp [refusalOf, hfound]
  | false => simp [refusalOf, hfound]

/-- A provider takes the text of a failed response for an answer of a node. -/
def TakesForRpc (p : Provider) (text : String) : Prop :=
  p.family = .nodeProxy ∧ (Text.trim text).toList.head? = some '\x7b'

/-- The text is the answer of a node that refuses a submission with an error. -/
def IsRpcRefusal (text : String) (e : NodeProxy.RpcError) : Prop :=
  ∃ d r, Document.Json.read? (Text.trim text) = some d ∧
    NodeProxy.RpcReply.ofDocument? Document.text? d = some r ∧ r.error = some e

/-- The error that the text of a failed response comes to, and the words in it that are the
provider's own: all of the text, or the message of a node's error. An error of a node about a
transaction that it does not know has none. -/
inductive Quotes (p : Provider) (status : Nat) (text : String) : ProviderError → String → Prop
  | plain (h : ¬ TakesForRpc p text) :
      Quotes p status text (.status status (Text.trim text)) text
  | rpc {e : NodeProxy.RpcError} (h : TakesForRpc p text) (he : IsRpcRefusal text e)
      (hcode : e.code ≠ NodeProxy.RpcReply.unknownTransaction) :
      Quotes p status text (.rejected s!"{e.code}: {e.message}") e.message

theorem Quotes.classify_eq {p : Provider} {status : Nat} {text words : String} {e : ProviderError}
    (h : Quotes p status text e words) :
    Wording.classify e.message = Wording.classify words := by
  cases h with
  | plain _ =>
    rw [Wording.classify_message_of_words_eq (t := Text.trim text) rfl, Wording.classify_trim]
  | @rpc e _ _ _ =>
    rw [Wording.classify_message_of_words_eq (t := s!"{e.code}: {e.message}") rfl,
      Wording.classify_coded]

namespace NodeProxy

variable {α : Type} {value? : Document → Option α} {text : String}

theorem call_read_of_object (url : String) (key : Secret) (method : String)
    (params : List Document) {code : Nat} (h : text.toList.head? = some '\x7b') :
    (call url key method params value?).read (.error (.status code text)) =
      (readJson (RpcReply.ofDocument? value?) text).bind RpcReply.unwrap := by
  show (body (.error (.status code text))).bind _ = _
  rw [body, if_pos h]
  rfl

theorem call_read_of_other (url : String) (key : Secret) (method : String)
    (params : List Document) {code : Nat} (h : text.toList.head? ≠ some '\x7b') :
    (call url key method params value?).read (.error (.status code text)) =
      .error (.status code text) := by
  show (body (.error (.status code text))).bind _ = _
  rw [body, if_neg h]
  rfl

theorem readJson_of_refusal {e : RpcError} (h : IsRpcRefusal text e) :
    (readJson (RpcReply.ofDocument? Document.text?) (Text.trim text)).bind RpcReply.unwrap =
      if e.code = RpcReply.unknownTransaction then .error .notFound
      else .error (.rejected s!"{e.code}: {e.message}") := by
  obtain ⟨d, ⟨result, error⟩, hd, hr, herror⟩ := h
  cases herror
  have hread : readJson (RpcReply.ofDocument? Document.text?) (Text.trim text) =
      .ok ⟨result, some e⟩ := by
    rw [readJson_eq_ok_iff, hd]
    exact hr
  rw [hread]
  rfl

end NodeProxy

section

variable {s : Services} {p : Provider} {hex : String} {x : Exchange (p.submitCall hex).Answer}
  (hx : s.exchange? (p.submitCall hex) = some x) {status : Nat} {text : String}
include hx

theorem strict_submission (hp : p.family ≠ .nodeProxy) : x.Strict := by
  match p, x, hx with
  | .miner m, _, rfl => exact strict_submit m hex
  | .outlet .explorer _, _, rfl => exact fun _ => rfl
  | .outlet .secondaryExplorer _, x, hx =>
    obtain ⟨endpoint, -, rfl⟩ := Option.map_eq_some_iff.mp hx
    exact fun _ => rfl
  | .outlet .nodeProxy _, x, hx => exact absurd rfl hp

theorem submission_read_plain (h : ¬ TakesForRpc p text) :
    x.read (.error (.status status (Text.trim text))) =
      .error (.status status (Text.trim text)) := by
  by_cases hp : p.family = .nodeProxy
  · match p, x, hx, hp with
    | .outlet .nodeProxy _, x, hx, _ =>
      obtain ⟨⟨url, key⟩, -, rfl⟩ := Option.map_eq_some_iff.mp hx
      exact NodeProxy.call_read_of_other url key "sendrawtransaction" [.text hex]
        fun hhead => h ⟨rfl, hhead⟩
  · exact strict_submission hx hp _

theorem submission_read_rpc (h : TakesForRpc p text) {e : NodeProxy.RpcError}
    (he : IsRpcRefusal text e) :
    x.read (.error (.status status (Text.trim text))) =
      if e.code = NodeProxy.RpcReply.unknownTransaction then .error .notFound
      else .error (.rejected s!"{e.code}: {e.message}") := by
  obtain ⟨hp, hhead⟩ := h
  match p, x, hx, hp with
  | .outlet .nodeProxy _, x, hx, _ =>
    obtain ⟨⟨url, key⟩, -, rfl⟩ := Option.map_eq_some_iff.mp hx
    exact (NodeProxy.call_read_of_object url key "sendrawtransaction" [.text hex] hhead).trans
      (NodeProxy.readJson_of_refusal he)

end

/-! ## What the broadcast makes of it -/

/-- A broadcast succeeds if one provider refuses in time with words for a known transaction. -/
theorem broadcast_of_known {g : Gateway} {w : World} {start : Instant} {id hex : String}
    {limit d : Nat} {p : Provider} {e : ProviderError} (latch : Latch)
    (hid : TxId.isLongEnough id = true) (hhex : Text.isBlankText hex = false)
    (hp : p ∈ g.providers .broadcast)
    (hresponse : w start (p.submitCall hex) = .answer d (.error e)) (hd : d ≤ limit)
    (hwords : Wording.classify e.message = .alreadyKnown) :
    (g.broadcast w start id hex limit latch).result.result = .ok () := by
  let request := Broadcast.requestOf g start id hex limit
  have hrefused : Broadcast.Refused w start request p e (start + d) :=
    .answered (p.submission_of_error id hresponse) (Nat.add_le_add_left hd start)
  exact Broadcast.broadcast_of_taken latch hid hhex hp (.known hrefused hwords)

/-- The verdict on a broadcast to one provider is made of its report. -/
theorem run_alone {w : World} {start : Instant} {request : Broadcast.Request} {p : Provider}
    {r : Broadcast.Report} (h : Broadcast.report? w start request p = some r) {latch : Latch} :
    (Broadcast.run w start [p] request latch).result.result = Broadcast.verdict [r] := by
  have hreports := Broadcast.arrivals_attempts_perm w start request [p]
  rw [List.filterMap_cons_some h, List.filterMap_nil, List.perm_singleton] at hreports
  rw [Broadcast.run_of_ne_nil (List.cons_ne_nil _ _)]
  show Broadcast.verdict (Scope.arrivals start _ |>.map Arrival.value) = _
  rw [hreports]

/-- A submission whose response is no success, nor a 404, ends in an error that is sorted by the
provider's own words, so that words for a known transaction make the broadcast succeed. A node's
error about a transaction that it does not know ends as a 404 does. -/
theorem refusal_sorted_by_words (s : Services) (p : Provider) (hex : String)
    (x : Exchange (p.submitCall hex).Answer) (hx : s.exchange? (p.submitCall hex) = some x)
    (status : Nat) (body : List UInt8) (hfinal : isInterim status = false)
    (hfailed : isSuccess status = false) (hfound : status ≠ 404) :
    let text := bodyText status body
    let response := Delivery.response status body true
    (∀ e words, Quotes p status text e words →
      x.read response.read = .error e ∧
      (∀ server request, x.draft.request? = some request → server request = response →
        x.run server = .error e) ∧
      Wording.classify e.message = Wording.classify words ∧
      (Wording.classify words = .alreadyKnown →
        ∀ (g : Gateway) (w : World) (start : Instant) (id : String) (limit d : Nat) (latch : Latch),
          TxId.isLongEnough id = true → Text.isBlankText hex = false →
          p ∈ g.providers .broadcast →
          w start (p.submitCall hex) = .answer d (x.read response.read) → d ≤ limit →
          (g.broadcast w start id hex limit latch).result.result = .ok ())) ∧
    ∀ e, TakesForRpc p text → IsRpcRefusal text e →
      e.code = NodeProxy.RpcReply.unknownTransaction → x.read response.read = .error .notFound := by
  intro text response
  have hresponse : response.read = .error (.status status (Text.trim text)) :=
    read_of_failed_text hfinal hfailed hfound body
  have hread : ∀ {e words}, Quotes p status text e words → x.read response.read = .error e := by
    intro e words h
    rw [hresponse]
    cases h with
    | plain h => exact submission_read_plain hx h
    | rpc h he hcode =>
      rw [submission_read_rpc hx h he, if_neg hcode]
  constructor
  · intro e words h
    refine ⟨hread h, ?_, h.classify_eq, ?_⟩
    · intro server request hrequest hserver
      rw [Exchange.run_of_request hrequest, hserver]
      exact hread h
    · intro hwords g w start id limit d latch hid hhex hp hanswer hd
      rw [hread h] at hanswer
      exact broadcast_of_known latch hid hhex hp hanswer hd (h.classify_eq.trans hwords)
  · intro e h he hcode
    rw [hresponse, submission_read_rpc hx h he, if_pos hcode]

/-! ## A node alone -/

/-- A node behind a proxy, and nothing else. -/
def nodeAlone : Settings where
  excluded := [.miner, .explorer, .secondaryExplorer]
  nodeProxy := some ⟨"http://node.example", some ⟨"key"⟩⟩

def nodeServices : Services := .ofSettings nodeAlone none

def gatewayToNode : Gateway := .withoutMiners nodeAlone nodeServices.connections

def nodeProvider : Provider := .outlet .nodeProxy "node_proxy"

/-- The outside in which the node fails with a text, whatever it is asked. -/
def failingNode (text : String) : World :=
  nodeServices.world fun _ => .response 500 (Text.Utf8.encode text) true

def nodeSubmission : Exchange String :=
  nodeServices.signed (NodeProxy.publish "http://node.example" ⟨"key"⟩ "00")

theorem failingNode_submission (text : String) :
    failingNode text 0 (nodeProvider.submitCall "00") =
      .answer 0
        (nodeSubmission.read (Delivery.response 500 (Text.Utf8.encode text) true).read) := by
  obtain ⟨request, hrequest⟩ :=
    Option.isSome_iff_exists.mp (show nodeSubmission.draft.request?.isSome = true by decide +kernel)
  exact congrArg (Response.answer 0) (Exchange.run_of_request hrequest)

/-- A node has the transaction already. -/
def inMempool : NodeProxy.RpcError := ⟨-27, "Transaction already in the mempool"⟩

def inMempoolText : String :=
  "\x7b\"error\":\x7b\"code\":-27,\"message\":\"Transaction already in the mempool\"\x7d\x7d"

/-- A node has the transaction already by the message of its error, and does not know it by the
code. -/
def contrary : NodeProxy.RpcError := ⟨-5, "txn-already-known"⟩

def contraryText : String :=
  "\x7b\"error\":\x7b\"code\":-5,\"message\":\"txn-already-known\"\x7d\x7d"

theorem rpcText_refuses : ∀ t ∈ [(inMempool, inMempoolText), (contrary, contraryText)],
    bodyText 500 (Text.Utf8.encode t.2) = t.2 ∧ TakesForRpc nodeProvider t.2 ∧
      IsRpcRefusal t.2 t.1 := by
  intro t ht
  obtain ⟨hbody, htrim, hhead, d, hjson, hreply⟩ :
      bodyText 500 (Text.Utf8.encode t.2) = t.2 ∧ Text.trim t.2 = t.2 ∧
        t.2.toList.head? = some '\x7b' ∧ ∃ d, Document.Json.read? t.2 = some d ∧
          NodeProxy.RpcReply.ofDocument? Document.text? d = some ⟨none, some t.1⟩ := by
    rcases List.mem_pair.mp ht with rfl | rfl
    · exact ⟨bodyText_encode rfl (by decide), by decide +kernel, rfl, .record [("error", .record
        [("code", .integer (-27)), ("message", .text inMempool.message)])], by decide +kernel, rfl⟩
    · exact ⟨bodyText_encode rfl (by decide), by decide +kernel, rfl, .record [("error", .record
        [("code", .integer (-5)), ("message", .text contrary.message)])], by decide +kernel, rfl⟩
  exact ⟨hbody, ⟨rfl, by rw [htrim]; exact hhead⟩, d, _, by rw [htrim]; exact hjson, hreply, rfl⟩

/-- The message of a node's error makes the broadcast succeed. -/
theorem rpc_refusal_sorted_by_message :
    nodeServices.exchange? (nodeProvider.submitCall "00") = some nodeSubmission ∧
      isInterim 500 = false ∧ isSuccess 500 = false ∧ (500 : Nat) ≠ 404 ∧
      (gatewayToNode.broadcast (failingNode inMempoolText) 0 Search.trialId "00" 10
        {}).result.result = .ok () := by
  obtain ⟨htext, hrpc, hrefusal⟩ := rpcText_refuses _ (List.mem_pair.mpr (.inl rfl))
  obtain ⟨hquoted, -⟩ := refusal_sorted_by_words nodeServices nodeProvider "00" nodeSubmission rfl
    500 (Text.Utf8.encode inMempoolText) rfl rfl (by decide)
  rw [htext] at hquoted
  obtain ⟨-, -, -, hbroadcast⟩ := hquoted _ _ (.rpc hrpc hrefusal (by decide))
  exact ⟨rfl, rfl, rfl, by decide, hbroadcast (by decide) gatewayToNode _ 0 Search.trialId 10 0 {}
    (by decide) (by decide) (by decide) (failingNode_submission _) (Nat.zero_le _)⟩

/-- All of the text is sorted as words for a known transaction. But the code of the error says that
the transaction is unknown, so the message is dropped, and the broadcast fails. -/
theorem rpc_refusal_hides_message :
    nodeServices.exchange? (nodeProvider.submitCall "00") = some nodeSubmission ∧
      isInterim 500 = false ∧ isSuccess 500 = false ∧ (500 : Nat) ≠ 404 ∧
      Wording.classify (bodyText 500 (Text.Utf8.encode contraryText)) = .alreadyKnown ∧
      nodeSubmission.read (Delivery.response 500 (Text.Utf8.encode contraryText) true).read =
        .error .notFound ∧
      Wording.classify ProviderError.notFound.message = .failure ∧
      (gatewayToNode.broadcast (failingNode contraryText) 0 Search.trialId "00" 10
        {}).result.result = .error (.broadcastFailed "node_proxy: Transaction not found") := by
  obtain ⟨htext, hrpc, hrefusal⟩ := rpcText_refuses _ (List.mem_pair.mpr (.inr rfl))
  have hx : nodeServices.exchange? (nodeProvider.submitCall "00") = some nodeSubmission := rfl
  have hread : nodeSubmission.read
      (Delivery.response 500 (Text.Utf8.encode contraryText) true).read =
        .error .notFound := by
    rw [read_of_failed_text rfl rfl (by decide), htext]
    exact submission_read_rpc hx hrpc hrefusal
  refine ⟨hx, rfl, rfl, by decide, by rw [htext]; decide +kernel, hread, by decide, ?_⟩
  let request := Broadcast.requestOf gatewayToNode 0 Search.trialId "00" 10
  let w := failingNode contraryText
  have hanswer : w 0 (nodeProvider.submitCall "00") = .answer 0 (.error .notFound) :=
    (failingNode_submission contraryText).trans (congrArg (Response.answer 0) hread)
  have hsubmission : request.submission nodeProvider w 0 = .answer 0 (.error .notFound) :=
    nodeProvider.submission_of_error Search.trialId hanswer
  have hreport : Broadcast.report? w 0 request nodeProvider =
      some ⟨"node_proxy", some "Transaction not found"⟩ := by
    rw [Broadcast.report?_of_refused (Nat.zero_le _) (.answered hsubmission (Nat.zero_le _)),
      Broadcast.settle_of_failure (by decide)]
    rfl
  have hproviders : gatewayToNode.providers .broadcast = [nodeProvider] := by decide
  rw [Broadcast.broadcast_eq, if_pos (by decide), hproviders, run_alone hreport]
  rfl

end Http

end TxGateway
