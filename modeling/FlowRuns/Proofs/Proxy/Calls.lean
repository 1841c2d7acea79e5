import FlowRuns.Proofs.Proxy.Exchange
import FlowRuns.Proofs.Proxy.PathCall

/-!
# The calls of the client

The proxy offers eight calls, and they are made alike: the arguments are checked, there is one exchange, and
the value that it comes to is read for what the call gives. The calls differ in what they check, what they
ask for and what they read.

* `ProxyCall` — the calls, with their arguments.
* `ProxyCall.Valid`, `ProxyCall.check_eq_ok_iff` — the arguments that pass.
* `ProxyCall.Reads`, `ProxyCall.read_eq_ok_iff` — the values that have the shape that a call needs.
* `ProxyCall.program_eq` — **a call** is a check, one exchange and a reading.
-/

namespace FlowRuns

/-- A call of the client. -/
inductive ProxyCall where
  /-- one that puts identifiers into the path -/
  | path (call : PathCall)
  /-- the flow runs of a deployment -/
  | flowRuns (query : FlowRunsRequest)
  /-- the deployments of an organization among given ones -/
  | filteredDeployments (orgSlug : String) (deploymentIds : List String)

namespace ProxyCall

/-- What a call gives when all goes well. -/
def Value : ProxyCall → Type
  | path call => call.Value
  | flowRuns _ => List Run
  | filteredDeployments _ _ => List Json

/-- The program of a call. -/
def program (c : ProxyClient) : (call : ProxyCall) → Program httpPeer (Except FlowError call.Value)
  | path call => call.program c
  | flowRuns q => (c.flowRunsOf q).program
  | filteredDeployments org ids => (c.filteredDeployments org ids).program

/-! ## What a call checks -/

/-- The check of the arguments. -/
def check : ProxyCall → Validation.Check
  | path (.flowRun id) => Validation.pathSegment "flow_run_id" id
  | path (.logPage page) => Validation.pathSegment "flow_run_id" page.flowRunId
  | path (.deployment id) => Validation.pathSegment "deployment_id" id
  | path (.startFlowRun id) => Validation.pathSegment "deployment_id" id
  | path (.setSchedule id status) => do
    Validation.pathSegment "deployment_id" id
    Validation.pathSegment "status" status
  | path (.deleteDeployment id) => Validation.pathSegment "deployment_id" id
  | flowRuns q => Validation.deploymentId q.deploymentId
  | filteredDeployments _ _ => .ok ()

/-- The arguments that pass: identifiers are not blank, and those in a path hold no slash. -/
def Valid : ProxyCall → Prop
  | path call => ∀ id, .identifier id ∈ call.parts → Text.isBlank id = false ∧ '/' ∉ id.toList
  | flowRuns q => Text.isBlank q.deploymentId = false
  | filteredDeployments _ _ => True

/-- A check that passes, or names a violation. -/
inductive Checks (passes : Prop) : Validation.Check → Prop where
  /-- it passes -/
  | ok (h : passes) : Checks passes (.ok ())
  /-- it does not -/
  | violation (h : ¬ passes) (v : Violation) : Checks passes (.error (.validation v))

namespace Checks

variable {passes passes' : Prop} {check check' : Validation.Check}

theorem congr (h : Checks passes check) (hiff : passes ↔ passes') : Checks passes' check := by
  cases h with
  | ok hpasses => exact .ok (hiff.1 hpasses)
  | violation hfails v => exact .violation (mt hiff.2 hfails) v

/-- Two checks, one after the other. -/
theorem bind (h : Checks passes check) (h' : Checks passes' check') :
    Checks (passes ∧ passes') (do check; check') := by
  cases h with
  | ok hpasses => exact h'.congr (and_iff_right hpasses).symm
  | violation hfails v => exact .violation (fun hboth => hfails hboth.1) v

end Checks

theorem checks_identifier (field value : String) :
    Checks (Text.isBlank value = false) (Validation.identifier field value) := by
  cases hblank : Text.isBlank value with
  | true =>
    rw [Validation.identifier_of_blank hblank]
    exact .violation nofun _
  | false =>
    rw [Validation.identifier_of_named hblank]
    exact .ok rfl

theorem checks_pathSegment (field value : String) :
    Checks (Text.isBlank value = false ∧ '/' ∉ value.toList) (Validation.pathSegment field value) := by
  refine (checks_identifier field value).bind ?_
  by_cases hslash : '/' ∈ value.toList
  · rw [if_pos (List.contains_iff_mem.2 hslash)]
    exact .violation (not_not_intro hslash) _
  · rw [if_neg (mt List.contains_iff_mem.1 hslash)]
    exact .ok hslash

/-- **The arguments pass** exactly if they are valid. -/
theorem checks_check (call : ProxyCall) : Checks call.Valid call.check := by
  cases call with
  | path call =>
    cases call with
    | setSchedule id status =>
      refine ((checks_pathSegment "deployment_id" id).bind (checks_pathSegment "status" status)).congr ?_
      simp [Valid, PathCall.parts, or_imp, forall_and, and_and_and_comm]
    | flowRun id => exact (checks_pathSegment _ id).congr (by simp [Valid, PathCall.parts])
    | logPage page => exact (checks_pathSegment _ _).congr (by simp [Valid, PathCall.parts])
    | deployment id => exact (checks_pathSegment _ id).congr (by simp [Valid, PathCall.parts])
    | startFlowRun id => exact (checks_pathSegment _ id).congr (by simp [Valid, PathCall.parts])
    | deleteDeployment id => exact (checks_pathSegment _ id).congr (by simp [Valid, PathCall.parts])
  | flowRuns q => exact checks_identifier "deployment_id" q.deploymentId
  | filteredDeployments org ids => exact .ok trivial

/-! ## What a call asks for -/

/-- The endpoint. -/
def endpoint : ProxyCall → String
  | path (.flowRun id) => "flow_runs/" ++ id
  | path (.logPage page) => Logs.endpoint page.flowRunId
  | path (.deployment id) => "deployments/" ++ id
  | path (.startFlowRun id) => "deployments/" ++ id ++ "/flow_run"
  | path (.setSchedule id status) => "deployments/" ++ id ++ "/set_schedule/" ++ status
  | path (.deleteDeployment id) => "deployments/" ++ id
  | flowRuns _ => "flow_runs"
  | filteredDeployments _ _ => "deployments/filter"

/-- What is wanted of the endpoint. -/
def method : ProxyCall → Http.Method
  | path call => call.method
  | flowRuns _ => .get
  | filteredDeployments _ _ => .post

/-- The parameters. -/
def pairs : ProxyCall → List (String × String)
  | path call => call.pairs
  | flowRuns q => ProxyClient.flowRunsPairs q
  | filteredDeployments _ _ => []

/-- The body. -/
def payload : ProxyCall → Option Json
  | path (.startFlowRun _) => some ProxyClient.emptyObject
  | path (.setSchedule _ _) => some ProxyClient.emptyObject
  | filteredDeployments org ids => some (Json.ofEntries
      [("org_slug", .string org), ("deployment_ids", .array (ids.map .string))])
  | _ => none

/-- The time that the call may take, if it is another than usual. -/
def timeout (c : ProxyClient) : ProxyCall → Option UInt64
  | flowRuns _ => some c.flowRunsTimeoutSeconds
  | _ => none

/-- The request of a call. -/
def request (c : ProxyClient) (call : ProxyCall) : Except ProxyClient.RequestFault Http.Request :=
  c.request call.method call.endpoint call.pairs call.payload (call.timeout c)

/-- The exchange of a call. -/
def exchange (c : ProxyClient) (call : ProxyCall) : Program httpPeer (Except FlowError Json) :=
  (c.send call.method call.endpoint call.pairs call.payload (call.timeout c)).run

/-! ## What a call reads -/

/-- The elements of an array in an answer. -/
def elementsOf (name : String) (answer : Json) : Except ResponseFault (List Json) :=
  match answer.get? name >>= Json.elements? with
  | some elements => .ok elements
  | none => .error (.missingArray name)

/-- What a call reads in an answer. -/
def read : (call : ProxyCall) → Json → Except ResponseFault call.Value
  | path (.flowRun _), answer => .ok answer
  | path (.logPage _), answer => (elementsOf "logs" answer).map (List.map ProxyClient.lineText)
  | path (.deployment _), answer => .ok answer
  | path (.startFlowRun _), answer => .ok answer
  | path (.setSchedule _ _), answer => .ok answer
  | path (.deleteDeployment _), _ => .ok ()
  | flowRuns q, answer => ProxyClient.runsIn q.deploymentId answer
  | filteredDeployments _ _, answer => elementsOf "deployments" answer

/-- An answer has the shape that a call needs, and this is what the call gives of it: lines, from an array of
lines; deployments, from an array of these; runs, from an array of reports that stand for them; nothing, from
any answer at all; or else the answer itself. -/
def Reads : (call : ProxyCall) → Json → call.Value → Prop
  | path (.flowRun _), answer, value => value = answer
  | path (.logPage _), answer, lines => ∃ elements, answer.get? "logs" = some (.array elements) ∧
      lines = elements.map ProxyClient.lineText
  | path (.deployment _), answer, value => value = answer
  | path (.startFlowRun _), answer, value => value = answer
  | path (.setSchedule _ _), answer, value => value = answer
  | path (.deleteDeployment _), _, _ => True
  | flowRuns q, answer, runs => ∃ elements reports, answer.get? "flow_runs" = some (.array elements) ∧
      List.Forall₂ (fun element report => ReportedRun.decoder element = .ok report) elements reports ∧
      List.Forall₂ (fun report run => report.toRun q.deploymentId = .ok run) reports runs
  | filteredDeployments _ _, answer, deployments => answer.get? "deployments" = some (.array deployments)

theorem elementsOf_eq_ok_iff {name : String} {answer : Json} {elements : List Json} :
    elementsOf name answer = .ok elements ↔ answer.get? name = some (.array elements) := by
  unfold elementsOf
  cases answer.get? name with
  | none => exact ⟨nofun, nofun⟩
  | some j =>
    cases j with
    | array es => simp [Json.elements?]
    | _ => simp [Json.elements?]

/-- **An answer is read** exactly if it has the shape that the call needs. -/
theorem read_eq_ok_iff {call : ProxyCall} {answer : Json} {value : call.Value} :
    call.read answer = .ok value ↔ call.Reads answer value := by
  have hitself (j : Json) : (Except.ok answer : Except ResponseFault Json) = .ok j ↔ j = answer :=
    ⟨fun h => (Except.ok.inj h).symm, fun h => congrArg Except.ok h.symm⟩
  cases call with
  | path call =>
    cases call with
    | logPage page =>
      change (elementsOf "logs" answer).map (List.map ProxyClient.lineText) = .ok value ↔ _
      constructor
      · intro h
        cases helements : elementsOf "logs" answer with
        | error fault =>
          rw [helements] at h
          cases h
        | ok elements =>
          rw [helements] at h
          exact ⟨elements, elementsOf_eq_ok_iff.1 helements, (Except.ok.inj h).symm⟩
      · rintro ⟨elements, helements, rfl⟩
        rw [elementsOf_eq_ok_iff.2 helements]
        rfl
    | deleteDeployment id => exact ⟨fun _ => trivial, fun _ => rfl⟩
    | flowRun id => exact hitself value
    | deployment id => exact hitself value
    | startFlowRun id => exact hitself value
    | setSchedule id status => exact hitself value
  | flowRuns q => exact ProxyClient.runsIn_eq_ok_iff
  | filteredDeployments org ids => exact elementsOf_eq_ok_iff

/-! ## A call as a whole -/

/-- What a call gives of what its exchange comes to. -/
def given (call : ProxyCall) : Except FlowError Json → Except FlowError call.Value
  | .ok answer => (call.read answer).mapError fun fault => .remote (.invalidResponse call.endpoint fault)
  | .error e => .error e

/-- What follows a check: the rest, or the violation. -/
def checked {α : Type} (check : Validation.Check) (rest : Program httpPeer (Except FlowError α)) :
    Program httpPeer (Except FlowError α) :=
  match check with
  | .ok () => rest
  | .error e => .done (.error e)

section Parts

variable {α : Type} {check check' : Validation.Check} {m : Attempt httpPeer Json}

theorem run_check (m : Attempt httpPeer α) :
    (do Attempt.ofExcept check; m : Attempt httpPeer α).run = checked check m.run := by
  rw [Program.runExcept_bind]
  cases check <;> rfl

theorem checked_checked (rest : Program httpPeer (Except FlowError α)) :
    checked check (checked check' rest) = checked (do check; check') rest := by
  cases check <;> rfl

/-- An exchange whose value is read. -/
theorem run_read {finish : Json → Attempt httpPeer α} {given : Except FlowError Json → Except FlowError α}
    (hok : ∀ answer, (finish answer).run = .done (given (.ok answer)))
    (herror : ∀ e, given (.error e) = .error e) :
    (m >>= finish).run = m.run.bind fun value => .done (given value) := by
  rw [Program.runExcept_bind]
  refine congrArg (Program.bind _) (funext fun value => ?_)
  cases value with
  | ok answer => exact hok answer
  | error e => exact congrArg Program.done (herror e).symm

/-- An exchange whose value is given as it is. -/
theorem run_given {given : Except FlowError Json → Except FlowError Json} (h : ∀ value, given value = value) :
    m.run = m.run.bind fun value => .done (given value) := by
  simp only [h]
  exact (Program.bind_done _).symm

end Parts

/-- **A call** is a check, one exchange and a reading. -/
theorem program_eq (c : ProxyClient) (call : ProxyCall) : call.program c =
    checked call.check ((call.exchange c).bind fun value => .done (call.given value)) := by
  cases call with
  | path call =>
    cases call with
    | flowRun id =>
      refine (run_check _).trans (congrArg (checked _) (run_given fun value => ?_))
      cases value <;> rfl
    | deployment id =>
      refine (run_check _).trans (congrArg (checked _) (run_given fun value => ?_))
      cases value <;> rfl
    | startFlowRun id =>
      refine (run_check _).trans (congrArg (checked _) (run_given fun value => ?_))
      cases value <;> rfl
    | setSchedule id status =>
      refine (run_check _).trans ((congrArg (checked _) (run_check _)).trans ?_)
      refine (checked_checked _).trans (congrArg (checked _) (run_given fun value => ?_))
      cases value <;> rfl
    | deleteDeployment id =>
      exact (run_check _).trans (congrArg (checked _) (run_read (fun _ => rfl) fun _ => rfl))
    | logPage page =>
      refine (run_check _).trans (congrArg (checked _) (run_read (fun answer => ?_) fun _ => rfl))
      unfold given read elementsOf
      dsimp only
      cases answer.get? "logs" >>= Json.elements? <;> rfl
  | flowRuns q =>
    refine (run_check _).trans (congrArg (checked _) (run_read (fun answer => ?_) fun _ => rfl))
    unfold given read
    dsimp only
    cases ProxyClient.runsIn q.deploymentId answer <;> rfl
  | filteredDeployments org ids =>
    change (c.filteredDeployments org ids).run = (exchange c _).bind _
    unfold ProxyClient.filteredDeployments
    refine run_read (fun answer => ?_) fun _ => rfl
    unfold given read elementsOf
    dsimp only
    cases answer.get? "deployments" >>= Json.elements? <;> rfl

end ProxyCall

end FlowRuns
