import FlowRuns.Http.Exchange
import FlowRuns.Json.Parser
import FlowRuns.Logs
import FlowRuns.Proxy.FlowRun
import FlowRuns.Settings.Basic
import FlowRuns.Sync

/-!
# The client of the proxy

The orchestrator is reached through a proxy. Every call goes to
`base URL` + `/proxy/` + `endpoint`, carries the organization in a header, and is made once: nothing
is retried.

* `ProxyClient.send` — one exchange. No answer, or an accepted request whose answer breaks off, is a
  connection error; a refusal is an error with the status and the body, whatever that is; the body
  of an accepted request has to be empty, which stands for `null`, or JSON.
* `ProxyClient.flowRun`, `ProxyClient.logPage`, `ProxyClient.flowRunsOf`, … — the calls that the
  proxy offers. Arguments are checked before anything is sent.
* `ProxyClient.servePages`, `ProxyClient.serveFlowRuns` — the client as a source of log pages and as
  a source of flow runs.
-/

namespace FlowRuns

/-- A client of the proxy. -/
structure ProxyClient where
  /-- where the proxy is -/
  baseUrl : Url
  /-- the organization on whose behalf requests are made -/
  orgSlug : Option String
  /-- how many seconds a request may take -/
  timeoutSeconds : UInt64
  /-- how many seconds listing the flow runs of a deployment may take -/
  flowRunsTimeoutSeconds : UInt64
  deriving Inhabited

namespace ProxyClient

/-! ## Making a client -/

/-- A client with given settings; refused if the base URL is no URL. -/
def create (s : ProxySettings) : Except FlowError ProxyClient :=
  match Url.parse s.baseUrl.toList with
  | .ok baseUrl => .ok ⟨baseUrl, s.orgSlug, s.timeoutSeconds, s.flowRunsTimeoutSeconds⟩
  | .error cause => .error (.configuration (.badBaseUrl s.baseUrl cause))

/-- What is reported of a client that was made. -/
def created (c : ProxyClient) : Event :=
  .clientCreated (String.ofList c.baseUrl.text) c.timeoutSeconds (c.orgSlug.getD "")

/-- The same client on behalf of another organization. -/
def withOrg (c : ProxyClient) (orgSlug : String) : ProxyClient :=
  { c with orgSlug := some orgSlug }

/-! ## Requests -/

/-- The text of the URL of an endpoint. -/
def endpointText (c : ProxyClient) (endpoint : String) : String :=
  let base := (c.baseUrl.text.reverse.dropWhile (· = '/')).reverse
  String.ofList (base ++ "/proxy/".toList ++ endpoint.toList.dropWhile (· = '/'))

/-- Why a request cannot be made. -/
inductive RequestFault where
  /-- a part of it cannot be written -/
  | malformed
  /-- its URL is not one of a web server -/
  | wrongUrl (url : Url)

/-- What is reported of a request that cannot be made. -/
def RequestFault.message : RequestFault → String
  | malformed => "builder error"
  | wrongUrl url => "builder error for url (" ++ String.ofList url.text ++ ")"

/-- What is reported of a request without an answer. -/
def unansweredText (r : Http.Request) : String :=
  "error sending request for url (" ++ String.ofList r.url.text ++ ")"

/-- The schemes of web servers. -/
def webSchemes : List (List Char) := ["http".toList, "https".toList]

/-- A URL without user name and password, which travel in a header. -/
def withoutUser (u : Url) : Url :=
  { u with authority := u.authority.map fun a => { a with user := [], password := [] } }

/-- The request for an endpoint: its URL with the pairs appended to its query. -/
def request (c : ProxyClient) (method : Http.Method) (endpoint : String)
    (pairs : List (String × String)) (payload : Option Json) (timeout : Option UInt64) :
    Except RequestFault Http.Request :=
  match Url.parse (c.endpointText endpoint).toList with
  | .error _ => .error .malformed
  | .ok url =>
    if !url.hasHost then .error (.wrongUrl url)
    else if !Http.isHeaderValue (c.orgSlug.getD "") then .error .malformed
    else
      let full := (withoutUser url).withPairs pairs
      if webSchemes.contains full.scheme then
        .ok ⟨method, full, c.orgSlug.getD "", payload, timeout.getD c.timeoutSeconds⟩
      else .error (.wrongUrl full)

/-- The text of the body of a refusal. -/
def refusalText : Http.Body → String
  | .complete bytes => Text.ofBytesLossy bytes
  | .brokenOff => "Unknown error"

/-- The value in the body of an answer to an accepted request. -/
def acceptedValue (endpoint : String) : Http.Body → Except FlowError Json
  | .brokenOff => .error (.remote .connection)
  | .complete [] => .ok .null
  | .complete bytes =>
    match Json.ofBytes? bytes with
    | some j => .ok j
    | none => .error (.remote (.invalidResponse endpoint .notJson))

/-- **One exchange** with the proxy. -/
def send (c : ProxyClient) (method : Http.Method) (endpoint : String)
    (pairs : List (String × String)) (payload : Option Json) (timeout : Option UInt64) :
    Attempt httpPeer Json := do
  let url := c.endpointText endpoint
  Attempt.note (.proxyRequest method.name url)
  match c.request method endpoint pairs payload timeout with
  | .error fault =>
    Attempt.note (.proxyUnreachable method.name url fault.message)
    Attempt.fail (.remote .connection)
  | .ok request =>
    match ← Attempt.ask (P := httpPeer) request with
    | .none =>
      Attempt.note (.proxyUnreachable method.name url (unansweredText request))
      Attempt.fail (.remote .connection)
    | .answer status body =>
      if Http.isSuccess status then Attempt.ofExcept (acceptedValue endpoint body)
      else
        Attempt.note
          (.proxyRefused method.name url (Http.statusText status) (refusalText body))
        Attempt.fail (.remote (.status status (refusalText body)))

/-- Reads from an endpoint. -/
def get (c : ProxyClient) (endpoint : String) (pairs : List (String × String))
    (timeout : Option UInt64) : Attempt httpPeer Json :=
  c.send .get endpoint pairs none timeout

/-- Makes something at an endpoint. -/
def post (c : ProxyClient) (endpoint : String) (payload : Json) (timeout : Option UInt64) :
    Attempt httpPeer Json :=
  c.send .post endpoint [] (some payload) timeout

/-- Replaces something at an endpoint. -/
def put (c : ProxyClient) (endpoint : String) (payload : Json) (timeout : Option UInt64) :
    Attempt httpPeer Json :=
  c.send .put endpoint [] (some payload) timeout

/-- Removes something at an endpoint. -/
def delete (c : ProxyClient) (endpoint : String) (timeout : Option UInt64) :
    Attempt httpPeer Json :=
  c.send .delete endpoint [] none timeout

/-- Ends with an error about the answer of an endpoint. -/
def refuseAnswer {α : Type} (endpoint : String) (fault : ResponseFault) : Attempt httpPeer α :=
  Attempt.fail (.remote (.invalidResponse endpoint fault))

/-- The decimal text of a number. -/
def numberText (n : UInt32) : String := toString n.toNat

/-! ## Flow runs -/

/-- A line of a log: a text, or the JSON text of anything else. -/
def lineText : Json → String
  | .string s => s
  | j => j.text

/-- The query of a page of a log. -/
def pagePairs (p : PageRequest) : List (String × String) :=
  [("offset", numberText p.offset), ("limit", numberText p.limit)]
    ++ (p.taskRunId.map fun t => ("task_run_id", t)).toList

/-- One page of the log of a flow run. -/
def logPage (c : ProxyClient) (p : PageRequest) : Attempt httpPeer (List String) := do
  Attempt.ofExcept (Validation.pathSegment "flow_run_id" p.flowRunId)
  let endpoint := Logs.endpoint p.flowRunId
  let answer ← c.get endpoint (pagePairs p) none
  match answer.get? "logs" >>= Json.elements? with
  | some lines => return lines.map lineText
  | none => refuseAnswer endpoint (.missingArray "logs")

/-- A flow run, as the proxy tells it. -/
def flowRun (c : ProxyClient) (flowRunId : String) : Attempt httpPeer Json := do
  Attempt.ofExcept (Validation.pathSegment "flow_run_id" flowRunId)
  c.get ("flow_runs/" ++ flowRunId) [] none

/-- The query of the flow runs of a deployment. -/
def flowRunsPairs (r : FlowRunsRequest) : List (String × String) :=
  ("deployment_id", r.deploymentId) :: (r.limit.map fun n => ("limit", numberText n)).toList

/-- The runs in an answer of the proxy. -/
def runsIn (deploymentId : String) (answer : Json) : Except ResponseFault (List Run) :=
  match answer.get? "flow_runs" with
  | none => .error (.missingArray "flow_runs")
  | some j =>
    match Decoder.list ReportedRun.decoder j with
    | .error m => .error (.mismatch m)
    | .ok reports => reports.mapM (ReportedRun.toRun deploymentId)

/-- **The flow runs** of a deployment, in the order of the proxy. -/
def flowRunsOf (c : ProxyClient) (r : FlowRunsRequest) : Attempt httpPeer (List Run) := do
  Attempt.ofExcept (Validation.deploymentId r.deploymentId)
  let answer ← c.get "flow_runs" (flowRunsPairs r) (some c.flowRunsTimeoutSeconds)
  match runsIn r.deploymentId answer with
  | .ok runs => return runs
  | .error fault => refuseAnswer "flow_runs" fault

/-! ## Deployments -/

/-- The object without entries. -/
def emptyObject : Json := .object []

/-- A deployment, as the proxy tells it. -/
def deployment (c : ProxyClient) (deploymentId : String) : Attempt httpPeer Json := do
  Attempt.ofExcept (Validation.pathSegment "deployment_id" deploymentId)
  c.get ("deployments/" ++ deploymentId) [] none

/-- Starts a flow run of a deployment. -/
def startFlowRun (c : ProxyClient) (deploymentId : String) : Attempt httpPeer Json := do
  Attempt.ofExcept (Validation.pathSegment "deployment_id" deploymentId)
  c.post ("deployments/" ++ deploymentId ++ "/flow_run") emptyObject none

/-- Switches the schedule of a deployment. -/
def setSchedule (c : ProxyClient) (deploymentId status : String) : Attempt httpPeer Json := do
  Attempt.ofExcept (Validation.pathSegment "deployment_id" deploymentId)
  Attempt.ofExcept (Validation.pathSegment "status" status)
  c.post ("deployments/" ++ deploymentId ++ "/set_schedule/" ++ status) emptyObject none

/-- The deployments of an organization among given ones. -/
def filteredDeployments (c : ProxyClient) (orgSlug : String) (deploymentIds : List String) :
    Attempt httpPeer (List Json) := do
  let payload := Json.ofEntries
    [("org_slug", .string orgSlug), ("deployment_ids", .array (deploymentIds.map .string))]
  let answer ← c.post "deployments/filter" payload none
  match answer.get? "deployments" >>= Json.elements? with
  | some deployments => return deployments
  | none => refuseAnswer "deployments/filter" (.missingArray "deployments")

/-- Removes a deployment. -/
def deleteDeployment (c : ProxyClient) (deploymentId : String) : Attempt httpPeer Unit := do
  Attempt.ofExcept (Validation.pathSegment "deployment_id" deploymentId)
  let _ ← c.delete ("deployments/" ++ deploymentId) none

/-! ## The client as a source -/

/-- The client as a source of log pages. -/
def servePages (c : ProxyClient) (r : logPeer.Request) : Program httpPeer (logPeer.Answer r) :=
  (c.logPage r).program

/-- The client as a source of flow runs. -/
def serveFlowRuns (c : ProxyClient) (r : sourcePeer.Request) :
    Program httpPeer (sourcePeer.Answer r) :=
  (c.flowRunsOf r).program

end ProxyClient

end FlowRuns
