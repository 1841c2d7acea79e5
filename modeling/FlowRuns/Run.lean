import FlowRuns.Status

/-!
# Runs

One historical execution of a deployment: when it started, how long it took, how it ended. Runs
are identified by their flow run id.
-/

namespace FlowRuns

/-- One execution of a deployment. -/
structure Run where
  /-- the deployment that was executed -/
  deploymentId : String
  /-- the identity of the run -/
  flowRunId : String
  /-- a name for people -/
  name : String
  /-- when it started -/
  startTime : Instant
  /-- when it should have started -/
  expectedStartTime : Instant
  /-- how many seconds it took -/
  totalRunTime : Binary64
  /-- its state -/
  status : Status
  /-- the orchestrator's own name of the state -/
  stateName : String
  deriving DecidableEq, Inhabited

namespace Run

/-- The calendar date, in universal time, on which the run started. -/
def startDate (r : Run) : Date := r.startTime.date

/-- The eight fields as they are exchanged. -/
def record : Record Run :=
  Run.mk <$> .required "deployment_id" .string
    <*> .required "flow_run_id" .string
    <*> .required "name" .string
    <*> .required "start_time" .instant
    <*> .required "expected_start_time" .instant
    <*> .required "total_run_time" .binary64
    <*> .required "status" Status.decoder
    <*> .required "state_name" .string

/-- Reads a run. -/
def decoder : Decoder Run := record.decoder "RunRecord"

end Run

end FlowRuns
