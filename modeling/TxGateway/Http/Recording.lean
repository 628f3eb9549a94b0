import TxGateway.Http.Exchange
import TxGateway.Timestamp.Reader

namespace TxGateway.Http

/-! # Recordings

A recording stands for the outside: a clock, and a list of routes that make up a server.

* `Route.server` answers a request by the first route that leads to it, and tells that nothing is
  found where none does.
* `Recording.ofDocument?` reads a recording.
-/

/-- What is answered to the requests of a method for a target. -/
structure Route where
  method : String
  target : String
  status : Nat
  body : List UInt8
deriving DecidableEq, Repr

namespace Route

def leadsTo (r : Route) (request : Request) : Bool :=
  r.method == request.method.name && r.target == request.url.target

def ofDocument? (d : Document) : Option Route := do
  let ms ← Document.members? ["method", "path", "status", "body"] d
  let body ← ms.withDefault "body" Document.text? ""
  return {
    method := ← ms.required "method" Document.text?
    target := ← ms.required "path" Document.text?
    status := (← ms.withDefault "status" Document.word? 200).toNat
    body := Text.Utf8.encode body }

/-- The server that routes make up. -/
def server (routes : List Route) : Server := fun request =>
  match routes.find? (·.leadsTo request) with
  | some r => .response r.status r.body true
  | none => .response 404 [] true

end Route

structure Recording where
  clock : Timestamp := Timestamp.epoch
  routes : List Route := []
deriving DecidableEq, Repr

namespace Recording

def ofDocument? (d : Document) : Option Recording := do
  let ms ← Document.members? ["clock", "routes"] d
  return {
    clock := ← ms.withDefault "clock" Timestamp.ofDocument? Timestamp.epoch
    routes := ← ms.withDefault "routes" (Document.list? Route.ofDocument?) [] }

/-- Reads a recording; a blank text is one without routes. -/
def read? (s : String) : Option Recording :=
  if Text.isBlankText s then some {} else (Document.Json.read? s).bind ofDocument?

end Recording

end TxGateway.Http
