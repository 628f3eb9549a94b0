import TxGateway.Http.Explorer

namespace TxGateway.Http.NodeProxy

/-! # Exchanges with a node proxy

A node is called by JSON-RPC through a proxy that asks for a key. The node answers with a result or
an error, and may send an error under a status that is no success.
-/

/-- An error of a node. -/
structure RpcError where
  code : Int
  message : String
deriving DecidableEq, Repr

/-- What a node answers: the result and the error, either of which may be absent. -/
structure RpcReply (α : Type) where
  result : Option α
  error : Option RpcError

namespace RpcReply

variable {α : Type}

def error? (d : Document) : Option RpcError := do
  let ms ← Document.members? ["code", "message"] d
  return ⟨← ms.required "code" Document.signed?, ← ms.required "message" Document.text?⟩

def ofDocument? (value? : Document → Option α) (d : Document) : Option (RpcReply α) := do
  let ms ← Document.members? ["result", "error"] d
  return ⟨← ms.nullable "result" value?, ← ms.nullable "error" error?⟩

/-- The code of an error about a transaction that the node does not know. -/
def unknownTransaction : Int := -5

/-- The result, unless there is an error. -/
def unwrap (r : RpcReply α) : Reply α :=
  match r.error, r.result with
  | some e, _ =>
    if e.code = unknownTransaction then .error .notFound
    else .error (.rejected s!"{e.code}: {e.message}")
  | none, some a => .ok a
  | none, none => .error (.unreadable "JSON-RPC response has no result")

end RpcReply

/-- The body of a success, or of another status if it looks like an object. -/
def body (reply : Reply String) : Reply String :=
  match reply with
  | .error (.status code text) =>
    if text.toList.head? = some '\x7b' then .ok text else .error (.status code text)
  | reply => reply

/-- A call of a method at an address, with a key. -/
def call {α : Type} (url : String) (key : Secret) (method : String) (params : List Document)
    (value? : Document → Option α) : Exchange α where
  draft :=
    (Draft.post url (.record [("jsonrpc", .text "1.0"), ("id", .text "chainstate"),
      ("method", .text method), ("params", .list params)])).withHeader "api-key" key.plain
  read reply := do
    let text ← body reply
    let answer ← readJson (RpcReply.ofDocument? value?) text
    answer.unwrap

/-- The key of a proxy called `name`, without which it cannot be called. -/
def key? (name : String) (e : Endpoint) : Reply Secret :=
  match e.credential? with
  | some key => .ok key
  | none => .error (.misconfigured s!"{name} has no api_key")

/-- Hands a transaction to the node. -/
def publish (url : String) (key : Secret) (hex : String) : Exchange String :=
  call url key "sendrawtransaction" [.text hex] Document.text?

/-- Asks the node for a transaction. -/
def find (url : String) (key : Secret) (id : String) : Exchange ChainSighting :=
  call url key "getrawtransaction" [.text id, .integer 1] Explorer.sighting?

end TxGateway.Http.NodeProxy
