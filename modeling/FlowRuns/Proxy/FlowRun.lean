import FlowRuns.Run
import FlowRuns.Error
import FlowRuns.Text.Blank

/-!
# Flow runs as the proxy reports them

The proxy reports a flow run with texts for its times and its state, and leaves out what it does not
know. Such a report becomes a `Run` when it has a usable start time and a known state:

* a time stamp that is missing, blank or malformed is not usable;
* the run starts at its start time, or else at its expected one;
* the start time is looked at before the state.
-/

namespace FlowRuns

/-- A flow run as it is reported. -/
structure ReportedRun where
  /-- its identity -/
  id : String
  /-- a name for people -/
  name : String
  /-- when it started -/
  startTime : Option String
  /-- when it should have started -/
  expectedStartTime : Option String
  /-- how many seconds it took -/
  totalRunTime : Binary64
  /-- its state -/
  status : String
  /-- the orchestrator's own name of the state -/
  stateName : Option String
  deriving DecidableEq, Inhabited

namespace ReportedRun

/-- The seven fields; four of them may be missing. -/
def record : Record ReportedRun :=
  ReportedRun.mk <$> .required "id" .string
    <*> .required "name" .string
    <*> .withDefault "startTime" (.optional .string) none
    <*> .withDefault "expectedStartTime" (.optional .string) none
    <*> .withDefault "totalRunTime" .binary64 .zero
    <*> .required "status" .string
    <*> .withDefault "state_name" (.optional .string) none

/-- Reads a report. -/
def decoder : Decoder ReportedRun := record.decoder "ProxyFlowRun"

/-- The instant of a time stamp, if the text is a usable one. -/
def usableTime? (text : Option String) : Option Instant :=
  (text.filter fun s => !Text.isBlank s).bind Instant.ofStrict?

/-- When the run started, as far as can be told. -/
def start? (r : ReportedRun) : Option Instant :=
  (usableTime? r.startTime).or (usableTime? r.expectedStartTime)

/-- **The run** of a deployment that a report stands for. -/
def toRun (deploymentId : String) (r : ReportedRun) : Except ResponseFault Run :=
  match r.start? with
  | none => .error (.noStartTime r.id)
  | some start =>
    match Status.parse r.status with
    | .error normalized => .error (.unknownStatus normalized)
    | .ok status =>
      .ok {
        deploymentId
        flowRunId := r.id
        name := r.name
        startTime := start
        expectedStartTime := (usableTime? r.expectedStartTime).getD start
        totalRunTime := r.totalRunTime
        status
        stateName := r.stateName.getD status.name }

end ReportedRun

end FlowRuns
