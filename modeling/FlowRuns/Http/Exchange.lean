import FlowRuns.Http.Status
import FlowRuns.Program
import FlowRuns.Url.Basic

/-!
# HTTP exchanges

One request and what comes of it: no answer at all, or a status and a body, which may break off.

* `Http.Request`, `Http.Reply` — the two sides of an exchange.
* `httpPeer` — a server as a collaborator.
* `Http.isHeaderValue` — the texts that a header can carry.
-/

namespace FlowRuns

namespace Http

/-- What a request wants done. -/
inductive Method where
  /-- to read -/
  | get
  /-- to make something -/
  | post
  /-- to replace something -/
  | put
  /-- to remove something -/
  | delete
  deriving DecidableEq, Inhabited

/-- The name of a method. -/
def Method.name : Method → String
  | get => "GET"
  | post => "POST"
  | put => "PUT"
  | delete => "DELETE"

/-- A request as it is sent. -/
structure Request where
  /-- what is wanted -/
  method : Method
  /-- where it goes -/
  url : Url
  /-- the organization on whose behalf it is made -/
  org : String
  /-- the JSON value in its body, if it has a body -/
  payload : Option Json
  /-- how many seconds it may take -/
  timeoutSeconds : UInt64
  deriving Inhabited

namespace Request

/-- Path and query. -/
def target (r : Request) : String := String.ofList r.url.target

/-- The type of the body, if there is one. -/
def contentType (r : Request) : Option String := r.payload.map fun _ => "application/json"

end Request

/-- The body of an answer. -/
inductive Body where
  /-- all of it came -/
  | complete (bytes : List UInt8)
  /-- it broke off -/
  | brokenOff
  deriving DecidableEq, Inhabited

/-- What comes of a request. -/
inductive Reply where
  /-- no answer -/
  | none
  /-- an answer -/
  | answer (status : Nat) (body : Body)
  deriving DecidableEq, Inhabited

/-- Whether a header can carry a text: it holds no control character but the tab. -/
def isHeaderValue (s : String) : Bool :=
  s.toList.all fun c => c = '\t' || (0x20 ≤ c.toNat && c.toNat ≠ 0x7f)

end Http

/-- A server as a collaborator. -/
def httpPeer : Peer where
  Request := Http.Request
  Answer _ := Http.Reply

end FlowRuns
