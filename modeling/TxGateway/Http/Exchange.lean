import TxGateway.Document.Json.Printer
import TxGateway.Document.Json.Reader
import TxGateway.Http.Url
import TxGateway.Provider.Call

namespace TxGateway.Http

/-! # Exchanges

An exchange is one request and the way its reply is read. Sending is left to a server, a function
from requests to replies, so that what is sent and what is understood can be looked at apart.

* `Draft.request?` is the request that is sent, if the address and the headers allow for one.
* `Delivery.read` reads a delivery: the body of a success, or the error of anything else.
* `Exchange.run` is the answer to an exchange with a server.
-/

inductive Method where
  | get
  | post
deriving DecidableEq, Repr

def Method.name : Method → String
  | .get => "GET"
  | .post => "POST"

structure Request where
  method : Method
  url : Url
  /-- The headers, by their names in lower case. -/
  headers : List (String × String)
  body : Option Document
deriving DecidableEq

/-- What comes back for a request. -/
inductive Delivery where
  /-- A response; the connection broke within its body unless it is complete. -/
  | response (status : Nat) (body : List UInt8) (complete : Bool)
  /-- The connection broke before there was a response. -/
  | broken
  /-- Nothing came before the client gave up. -/
  | stalled
deriving DecidableEq, Repr

/-- What answers requests. -/
abbrev Server : Type := Request → Delivery

/-! ## Requests -/

/-- A request before its address has been read. -/
structure Draft where
  method : Method
  address : String
  headers : List (String × String) := []
  body : Option Document := none

/-- A character that may stand in the value of a header: no control but the tab. -/
def isHeaderChar (c : Char) : Bool := c == '\t' || (0x20 ≤ c.toNat && c.toNat != 0x7F)

namespace Draft

def get (address : String) : Draft := ⟨.get, address, [], none⟩

/-- A request that carries a JSON document. -/
def post (address : String) (body : Document) : Draft :=
  ⟨.post, address, [("content-type", "application/json")], some body⟩

def withHeader (d : Draft) (name value : String) : Draft :=
  { d with headers := d.headers ++ [(name, value)] }

/-- Adds a header whose value may be absent. -/
def withHeader? (d : Draft) (name : String) (value : Option String) : Draft :=
  match value with
  | some value => d.withHeader name value
  | none => d

/-- The request, if its address is one and its headers have no controls. -/
def request? (d : Draft) : Option Request := do
  let url ← Url.parse? d.address
  if d.headers.all fun h => h.2.toList.all isHeaderChar then
    some { method := d.method, url, headers := d.headers, body := d.body }
  else none

end Draft

/-! ## Replies -/

/-- The reason of an error that lies in the connection. -/
def noResponse : String := "no response"

/-- The reason of an error that lies in the form of a body. -/
def malformed : String := "the body does not have the expected form"

/-- Whether a status is a success. -/
def isSuccess (status : Nat) : Bool := 200 ≤ status && status < 300

/-- Whether responses of a status come without a body, whatever they announce. -/
def hasNoBody (status : Nat) : Bool := status == 101 || status == 204 || status == 304

/-- Whether a status only announces that a response is to come. -/
def isInterim (status : Nat) : Bool := status < 200 && status != 101

/-- What a complete body under a status says. -/
def readBody (status : Nat) (body : List UInt8) : Reply String :=
  if status = 404 then .error .notFound
  else if isSuccess status then .ok (Text.Utf8.decodeLossy body)
  else .error (.status status (Text.trim (Text.Utf8.decodeLossy body)))

/-- The body of a success, or the error of anything else. A body that broke off is an error whatever
the status says. -/
def Delivery.read : Delivery → Reply String
  | .broken => .error (.unreachable noResponse)
  | .stalled => .error .late
  | .response status body complete =>
    if isInterim status then .error (.unreachable noResponse)
    else if hasNoBody status then readBody status []
    else if complete then readBody status body
    else .error (.unreachable noResponse)

/-- Reads a body as a JSON document of some form. -/
def readJson {α : Type} (value? : Document → Option α) (body : String) : Reply α :=
  match (Document.Json.read? body).bind value? with
  | some a => .ok a
  | none => .error (.unreadable malformed)

/-! ## Exchanges -/

/-- A request and the way to read what `Delivery.read` makes of its reply. -/
structure Exchange (α : Type) where
  draft : Draft
  read : Reply String → Reply α

namespace Exchange

variable {α : Type}

/-- An exchange whose reply is a JSON document. -/
def json (draft : Draft) (value? : Document → Option α) : Exchange α :=
  ⟨draft, fun reply => reply.bind (readJson value?)⟩

/-- Goes on with what has been read. -/
def andThen {β : Type} (x : Exchange α) (f : α → Reply β) : Exchange β :=
  ⟨x.draft, fun reply => (x.read reply).bind f⟩

/-- The answer of a server, or an error if there is no request to send. -/
def run (x : Exchange α) (server : Server) : Reply α :=
  match x.draft.request? with
  | some request => x.read (server request).read
  | none => .error (.unreachable noResponse)

end Exchange

end TxGateway.Http
