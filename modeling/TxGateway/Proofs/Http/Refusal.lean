import TxGateway.Http.Services

namespace TxGateway.Http

/-! # Responses that are no success

A response whose status is no success carries no answer. Most exchanges keep to that: they read
nothing but the body of a success. A node proxy is the exception, since a node may put its error into
such a response; what it reads there as an answer, it takes for one.

* `Delivery.read_of_failed` is what comes of a final response whose status is no success.
* `Exchange.Strict` says that an exchange passes every error on, and `NodeProxy.call_error_eq_ok_iff`
  tells which errors an exchange with a node proxy takes for answers.
* `read_error_eq_ok_iff` goes through the calls of all services.
* `failed_response_answers_iff` says when a call has an answer without a success.
-/

/-! ## Deliveries -/

/-- The error that a complete body under a status comes to that is no success. -/
def refusalOf (status : Nat) (body : List UInt8) : ProviderError :=
  if status = 404 then .notFound
  else .status status (Text.trim (Text.Utf8.decodeLossy body))

/-- The error of a final response whose status is no success. -/
def refusal (status : Nat) (body : List UInt8) (complete : Bool) : ProviderError :=
  if hasNoBody status then refusalOf status []
  else if complete then refusalOf status body
  else .unreachable noResponse

theorem Delivery.read_of_failed {status : Nat} {body : List UInt8} {complete : Bool}
    (hfinal : isInterim status = false) (hfailed : isSuccess status = false) :
    (Delivery.response status body complete).read = .error (refusal status body complete) := by
  have hbody : ∀ bytes, readBody status bytes = .error (refusalOf status bytes) := by
    intro bytes
    unfold readBody refusalOf
    rw [hfailed]
    split <;> rfl
  simp only [read, refusal, hfinal, hbody, Bool.false_eq_true, if_false]
  split
  · rfl
  · split <;> rfl

/-- The text that a refusal may still carry an answer in. -/
theorem refusal_eq_status_iff {status code : Nat} {body : List UInt8} {complete : Bool}
    {text : String} (htext : text.toList ≠ []) :
    refusal status body complete = .status code text ↔
      complete = true ∧ hasNoBody status = false ∧ status ≠ 404 ∧ status = code ∧
        Text.trim (Text.Utf8.decodeLossy body) = text := by
  have hof : ∀ bytes, refusalOf status bytes = .status code text ↔
      status ≠ 404 ∧ status = code ∧ Text.trim (Text.Utf8.decodeLossy bytes) = text := by
    intro bytes
    unfold refusalOf
    split
    · next h => simp [h]
    · next h => simp [h]
  -- a response without a body has a text that is blank
  have hblank : (Text.trim (Text.Utf8.decodeLossy [])).toList = [] := by decide
  unfold refusal
  cases hnone : hasNoBody status with
  | true =>
    rw [if_pos rfl, hof]
    constructor
    · rintro ⟨-, -, rfl⟩
      exact absurd hblank htext
    · rintro ⟨-, h, -⟩
      cases h
  | false =>
    cases complete with
    | true => simp [hof]
    | false => simp

/-- What comes after an error is never looked at. -/
theorem bind_eq_ok_iff {α β : Type} {x : Reply α} {f : α → Reply β} {b : β} :
    x.bind f = .ok b ↔ ∃ a, x = .ok a ∧ f a = .ok b := by
  cases x <;> simp [Except.bind]

/-! ## Exchanges without an answer -/

namespace Exchange

variable {α β : Type}

/-- Whatever goes wrong with a delivery, the exchange passes it on. -/
def Strict (x : Exchange α) : Prop := ∀ e, x.read (.error e) = .error e

theorem strict_json (draft : Draft) (value? : Document → Option α) :
    (json draft value?).Strict := fun _ => rfl

theorem Strict.andThen {x : Exchange α} (h : x.Strict) (f : α → Reply β) :
    (x.andThen f).Strict := by
  intro e
  show (x.read (.error e)).bind f = _
  rw [h e]
  rfl

theorem run_of_request {x : Exchange α} {server : Server} {request : Request}
    (h : x.draft.request? = some request) : x.run server = x.read (server request).read := by
  simp [run, h]

end Exchange

open Exchange

theorem strict_wrapped {α : Type} (d : Draft) (value? : Document → Option α) :
    (Mining.wrapped d value?).Strict :=
  (strict_json d Mining.payload?).andThen _

theorem strict_submit (m : Miner) (hex : String) : (Mining.submit m hex).Strict := by
  unfold Mining.submit
  split
  · exact strict_wrapped _ _
  · exact strict_json _ _

theorem strict_status (m : Miner) (id : String) : (Mining.status m id).Strict := by
  unfold Mining.status
  split
  · exact strict_wrapped _ _
  · exact strict_json _ _

theorem strict_quote (dialect : MinerDialect) (m : Miner) : (Mining.quote dialect m).Strict := by
  unfold Mining.quote
  split
  · exact (strict_wrapped _ _).andThen _
  · exact strict_json _ _

/-! ## The node proxy -/

namespace NodeProxy

variable {α : Type} {value? : Document → Option α} {text : String} {a : α}

theorem RpcReply.unwrap_eq_ok_iff {r : RpcReply α} :
    r.unwrap = .ok a ↔ r.error = none ∧ r.result = some a := by
  obtain ⟨result, error⟩ := r
  cases error with
  | some e => by_cases h : e.code = unknownTransaction <;> simp [unwrap, h]
  | none => cases result <;> simp [unwrap]

/-- A text that begins as an object does, and is an answer of a node without an error. -/
def Answered (value? : Document → Option α) (text : String) (a : α) : Prop :=
  text.toList.head? = some '\x7b' ∧
    ∃ d, Document.Json.read? text = some d ∧ RpcReply.ofDocument? value? d = some ⟨some a, none⟩

theorem readJson_eq_ok_iff {body : String} :
    readJson value? body = .ok a ↔ (Document.Json.read? body).bind value? = some a := by
  unfold readJson
  cases (Document.Json.read? body).bind value? <;> simp

theorem body_error_eq_ok_iff {e : ProviderError} :
    body (.error e) = .ok text ↔
      ∃ code, e = .status code text ∧ text.toList.head? = some '\x7b' := by
  cases e with
  | status code text' =>
    simp only [body, ProviderError.status.injEq]
    split
    · next h =>
      rw [Except.ok.injEq]
      exact ⟨fun heq => ⟨code, ⟨rfl, heq⟩, heq ▸ h⟩, fun ⟨_, ⟨_, heq⟩, _⟩ => heq⟩
    · next h =>
      constructor
      · intro heq
        cases heq
      · rintro ⟨_, ⟨_, rfl⟩, hhead⟩
        exact absurd hhead h
  | _ => simp [body]

/-- An error is taken for an answer if it is a status whose text is one. -/
theorem call_error_eq_ok_iff (url : String) (key : Secret) (method : String)
    (params : List Document) {e : ProviderError} :
    (call url key method params value?).read (.error e) = .ok a ↔
      ∃ code text, e = .status code text ∧ Answered value? text a := by
  have hread : (call url key method params value?).read (.error e) = .ok a ↔
      ∃ text, body (.error e) = .ok text ∧
        ∃ r, readJson (RpcReply.ofDocument? value?) text = .ok r ∧ r.unwrap = .ok a := by
    show ((body (.error e)).bind fun text =>
      (readJson (RpcReply.ofDocument? value?) text).bind RpcReply.unwrap) = .ok a ↔ _
    rw [bind_eq_ok_iff]
    simp only [bind_eq_ok_iff]
  have hunwrap : ∀ text, (∃ r, readJson (RpcReply.ofDocument? value?) text = .ok r ∧
      r.unwrap = .ok a) ↔ ∃ d, Document.Json.read? text = some d ∧
        RpcReply.ofDocument? value? d = some ⟨some a, none⟩ := by
    intro text
    simp only [readJson_eq_ok_iff, RpcReply.unwrap_eq_ok_iff, Option.bind_eq_some_iff]
    constructor
    · rintro ⟨⟨result, error⟩, ⟨d, hd, hr⟩, rfl, rfl⟩
      exact ⟨d, hd, hr⟩
    · rintro ⟨d, hd, hr⟩
      exact ⟨_, ⟨d, hd, hr⟩, rfl, rfl⟩
  simp only [hread, hunwrap, body_error_eq_ok_iff, Answered]
  constructor
  · rintro ⟨text, ⟨code, rfl, hhead⟩, hanswer⟩
    exact ⟨code, text, rfl, hhead, hanswer⟩
  · rintro ⟨code, text, rfl, hhead, hanswer⟩
    exact ⟨text, ⟨code, rfl, hhead⟩, hanswer⟩

end NodeProxy

/-! ## Calls -/

/-- The text of a refused call that is taken for an answer. -/
def Recovered : (c : Call) → String → c.Answer → Prop
  | .publish .nodeProxy _, text, a => NodeProxy.Answered Document.text? text a
  | .find .nodeProxy _, text, a => NodeProxy.Answered Explorer.sighting? text a
  | _, _, _ => False

/-- A call of a node proxy recovers an answer from some errors, and no other call has one. -/
theorem read_error_eq_ok_iff {s : Services} {c : Call} {x : Exchange c.Answer}
    (hx : s.exchange? c = some x) {e : ProviderError} {a : c.Answer} :
    x.read (.error e) = .ok a ↔ ∃ code text, e = .status code text ∧ Recovered c text a := by
  have hstrict : x.Strict → (∀ text, ¬ Recovered c text a) →
      (x.read (.error e) = .ok a ↔ ∃ code text, e = .status code text ∧ Recovered c text a) := by
    intro h hnone
    rw [h e]
    constructor
    · intro hok
      cases hok
    · rintro ⟨code, text, -, hrecovered⟩
      exact absurd hrecovered (hnone text)
  -- the name of the sender is put into the request, and has no part in reading
  match c, x, a, hx with
  | .submit m hex, _, a, rfl => exact hstrict (strict_submit m hex) fun _ => id
  | .status m id, _, a, rfl => exact hstrict (strict_status m id) fun _ h => h
  | .quote dialect m, _, a, rfl => exact hstrict (strict_quote dialect m) fun _ => id
  | .publish .explorer hex, _, a, rfl => exact hstrict (fun _ => rfl) fun _ => id
  | .publish .secondaryExplorer hex, x, a, hx =>
    obtain ⟨endpoint, -, rfl⟩ := Option.map_eq_some_iff.mp hx
    exact hstrict (fun _ => rfl) fun _ => id
  | .publish .nodeProxy hex, x, a, hx =>
    obtain ⟨⟨url, key⟩, -, rfl⟩ := Option.map_eq_some_iff.mp hx
    exact NodeProxy.call_error_eq_ok_iff url key "sendrawtransaction" [.text hex]
  | .find .explorer id, _, a, rfl => exact hstrict (fun _ => rfl) fun _ h => h
  | .find .secondaryExplorer id, x, a, hx =>
    obtain ⟨endpoint, -, rfl⟩ := Option.map_eq_some_iff.mp hx
    exact hstrict (fun _ => rfl) fun _ h => h
  | .find .nodeProxy id, x, a, hx =>
    obtain ⟨⟨url, key⟩, -, rfl⟩ := Option.map_eq_some_iff.mp hx
    exact NodeProxy.call_error_eq_ok_iff url key "getrawtransaction" [.text id, .integer 1]
  | .verify i roots, x, a, hx =>
    obtain ⟨v, -, rfl⟩ := Option.map_eq_some_iff.mp hx
    exact hstrict (strict_json _ _) fun _ => id

theorem Recovered.toList_ne_nil {c : Call} {text : String} {a : c.Answer}
    (h : Recovered c text a) : text.toList ≠ [] := by
  have hhead : text.toList.head? = some '\x7b' := by
    match c, a, h with
    | .publish .nodeProxy _, _, h => exact h.1
    | .find .nodeProxy _, _, h => exact h.1
  intro hnil
  rw [hnil] at hhead
  cases hhead

/-- A response whose status is no success is taken for an answer: the call goes to a node proxy, and
the response is complete and not a 404, with the answer of a node in its body. -/
structure TakenForAnswer (c : Call) (status : Nat) (body : List UInt8) (complete : Bool)
    (a : c.Answer) : Prop where
  complete : complete = true
  bodied : hasNoBody status = false
  found : status ≠ 404
  recovered : Recovered c (Text.trim (Text.Utf8.decodeLossy body)) a

/-- A final response whose status is no success is an error for every call of every service, whatever
its body, except where a node proxy takes it for an answer. -/
theorem failed_response_answers_iff (s : Services) (c : Call) (x : Exchange c.Answer)
    (hx : s.exchange? c = some x) (status : Nat) (body : List UInt8) (complete : Bool)
    (hfinal : isInterim status = false) (hfailed : isSuccess status = false) (a : c.Answer) :
    (x.read (Delivery.response status body complete).read = .ok a ↔
      TakenForAnswer c status body complete a) ∧
    ∀ server request, x.draft.request? = some request →
      server request = .response status body complete →
        (x.run server = .ok a ↔ TakenForAnswer c status body complete a) := by
  have hread : x.read (Delivery.response status body complete).read = .ok a ↔
      TakenForAnswer c status body complete a := by
    rw [Delivery.read_of_failed hfinal hfailed, read_error_eq_ok_iff hx]
    constructor
    · rintro ⟨code, text, hrefusal, hrecovered⟩
      obtain ⟨hcomplete, hbodied, hfound, -, rfl⟩ :=
        (refusal_eq_status_iff hrecovered.toList_ne_nil).mp hrefusal
      exact ⟨hcomplete, hbodied, hfound, hrecovered⟩
    · rintro ⟨hcomplete, hbodied, hfound, hrecovered⟩
      exact ⟨status, _, (refusal_eq_status_iff hrecovered.toList_ne_nil).mpr
        ⟨hcomplete, hbodied, hfound, rfl, rfl⟩, hrecovered⟩
  refine ⟨hread, ?_⟩
  intro server request hrequest hresponse
  rw [run_of_request hrequest, hresponse]
  exact hread

/-- An explorer, and a node behind a proxy. -/
def explorerAndNode : Services where
  network := .main
  explorer := ⟨"http://explorer.example", none⟩
  secondaryExplorer := none
  nodeProxy := some ("http://node.example", ⟨"key"⟩)
  verifiers := []

/-- The body of a node's answer. -/
def nodeAnswer : List UInt8 := Text.Utf8.encode "\x7b\"result\":\"00ff\"\x7d"

/-- What an explorer sends under a failure is no answer. -/
theorem failed_explorer_refuses :
    ∃ x, explorerAndNode.exchange? (.publish .explorer "01") = some x ∧
      x.draft.request?.isSome = true ∧ isInterim 500 = false ∧ isSuccess 500 = false ∧
      ∀ id, x.run (fun _ => .response 500 nodeAnswer true) ≠ .ok id := by
  let x := explorerAndNode.signed (Explorer.publish explorerAndNode.explorer .main "01")
  have hsome : x.draft.request?.isSome = true := by decide +kernel
  refine ⟨x, rfl, hsome, rfl, rfl, fun id hid => ?_⟩
  obtain ⟨request, hrequest⟩ := Option.isSome_iff_exists.mp hsome
  obtain ⟨-, hrun⟩ := failed_response_answers_iff explorerAndNode (.publish .explorer "01") x rfl
    500 nodeAnswer true rfl rfl id
  exact ((hrun _ request hrequest rfl).mp hid).recovered

/-- What a node sends under a failure may be taken for an answer. -/
theorem failed_node_answers :
    ∃ x, explorerAndNode.exchange? (.publish .nodeProxy "01") = some x ∧
      isInterim 500 = false ∧ isSuccess 500 = false ∧
      x.run (fun _ => .response 500 nodeAnswer true) = .ok "00ff" := by
  let x := explorerAndNode.signed (NodeProxy.publish "http://node.example" ⟨"key"⟩ "01")
  refine ⟨x, rfl, rfl, rfl, ?_⟩
  obtain ⟨request, hrequest⟩ :=
    Option.isSome_iff_exists.mp (show x.draft.request?.isSome = true by decide +kernel)
  have htext : Text.trim (Text.Utf8.decodeLossy nodeAnswer) =
      "\x7b\"result\":\"00ff\"\x7d" := by decide +kernel
  have hjson : Document.Json.read? "\x7b\"result\":\"00ff\"\x7d" =
      some (.record [("result", .text "00ff")]) := by decide +kernel
  have hrefusal : refusal 500 nodeAnswer true = .status 500 "\x7b\"result\":\"00ff\"\x7d" :=
    congrArg (ProviderError.status 500) htext
  rw [run_of_request hrequest, Delivery.read_of_failed rfl rfl, hrefusal]
  exact (NodeProxy.call_error_eq_ok_iff _ _ _ _).mpr ⟨500, _, rfl, rfl, _, hjson, rfl⟩

end TxGateway.Http
