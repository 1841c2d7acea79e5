import FlowRuns.Dataflow
import FlowRuns.History.Query

/-!
# Statements

What is sent to the database: a text with numbered places, and a value for each place.

* `Parameter` — a value for a place.
* `RunColumn`, `DataflowColumn` — the columns of the two tables, in order, and their values.
* `Statement`, `Statement.text`, `Statement.parameters` — the statements.
-/

namespace FlowRuns

/-- A value that is sent with a statement. -/
inductive Parameter where
  /-- nothing -/
  | null
  /-- a text -/
  | text (value : String)
  /-- several texts -/
  | texts (values : List String)
  /-- an integer of 64 bits -/
  | integer (value : Int)
  /-- a floating-point number -/
  | float (value : Binary64)
  /-- a point in time, in microseconds since 1970 -/
  | time (microseconds : Int)
  /-- a JSON value -/
  | json (value : Json)
  deriving Inhabited

/-- A text, or nothing. -/
def Parameter.ofText? : Option String → Parameter
  | some s => text s
  | none => null

/-! ## Columns -/

/-- The columns of the table of runs. -/
inductive RunColumn where
  /-- the deployment -/
  | deploymentId
  /-- the key of the table -/
  | flowRunId
  /-- a name for people -/
  | name
  /-- when the run started -/
  | startTime
  /-- when it should have started -/
  | expectedStartTime
  /-- how long it took -/
  | totalRunTime
  /-- its state -/
  | status
  /-- the orchestrator's name of the state -/
  | stateName
  deriving DecidableEq, Inhabited

namespace RunColumn

/-- All columns in order. -/
def all : List RunColumn :=
  [deploymentId, flowRunId, name, startTime, expectedStartTime, totalRunTime, status, stateName]

/-- The columns that a run takes over from a later one with its key. -/
def replaced : List RunColumn :=
  [name, startTime, expectedStartTime, totalRunTime, status, stateName]

/-- The name of a column. -/
def label : RunColumn → String
  | deploymentId => "deployment_id"
  | flowRunId => "flow_run_id"
  | name => "name"
  | startTime => "start_time"
  | expectedStartTime => "expected_start_time"
  | totalRunTime => "total_run_time"
  | status => "status"
  | stateName => "state_name"

/-- The value of a run in a column. -/
def value : RunColumn → Run → Parameter
  | deploymentId, r => .text r.deploymentId
  | flowRunId, r => .text r.flowRunId
  | name, r => .text r.name
  | startTime, r => .time r.startTime.microseconds
  | expectedStartTime, r => .time r.expectedStartTime.microseconds
  | totalRunTime, r => .float r.totalRunTime
  | status, r => .text r.status.name
  | stateName, r => .text r.stateName

/-- A run with the value of another in a column. -/
def copy : RunColumn → (source : Run) → Run → Run
  | deploymentId, s, r => { r with deploymentId := s.deploymentId }
  | flowRunId, s, r => { r with flowRunId := s.flowRunId }
  | name, s, r => { r with name := s.name }
  | startTime, s, r => { r with startTime := s.startTime }
  | expectedStartTime, s, r => { r with expectedStartTime := s.expectedStartTime }
  | totalRunTime, s, r => { r with totalRunTime := s.totalRunTime }
  | status, s, r => { r with status := s.status }
  | stateName, s, r => { r with stateName := s.stateName }

end RunColumn

/-- The columns of the table of dataflows that a dataflow brings with it; its number is given to it
by the table. -/
inductive DataflowColumn where
  /-- its name -/
  | name
  /-- the deployment, the key by which it is saved -/
  | deploymentId
  /-- the name of the deployment -/
  | deploymentName
  /-- its schedule -/
  | cron
  /-- what kind of dataflow it is -/
  | dataflowType
  /-- the metadata beside it -/
  | metadata
  deriving DecidableEq, Inhabited

namespace DataflowColumn

/-- All columns in order. -/
def all : List DataflowColumn := [name, deploymentId, deploymentName, cron, dataflowType, metadata]

/-- The columns of a new dataflow. -/
def initial : List DataflowColumn := [name, deploymentId, deploymentName, cron, dataflowType]

/-- The columns that a dataflow takes over from a later one with its key. -/
def replaced : List DataflowColumn := [metadata]

/-- The name of a column. -/
def label : DataflowColumn → String
  | name => "name"
  | deploymentId => "deployment_id"
  | deploymentName => "deployment_name"
  | cron => "cron"
  | dataflowType => "dataflow_type"
  | metadata => "meta"

/-- The value of a dataflow in a column. -/
def value : DataflowColumn → Dataflow → Parameter
  | name, d => .text d.name
  | deploymentId, d => .text d.deploymentId
  | deploymentName, d => .text d.deploymentName
  | cron, d => .ofText? d.cron
  | dataflowType, d => .text d.dataflowType
  | metadata, d =>
    match d.metadata with
    | some j => .json j
    | none => .null

/-- A dataflow with the value of another in a column. -/
def copy : DataflowColumn → (source : Dataflow) → Dataflow → Dataflow
  | name, s, d => { d with name := s.name }
  | deploymentId, s, d => { d with deploymentId := s.deploymentId }
  | deploymentName, s, d => { d with deploymentName := s.deploymentName }
  | cron, s, d => { d with cron := s.cron }
  | dataflowType, s, d => { d with dataflowType := s.dataflowType }
  | metadata, s, d => { d with metadata := s.metadata }

end DataflowColumn

/-! ## Statements -/

/-- What is sent to the database. -/
inductive Statement where
  /-- a transaction begins -/
  | begin
  /-- a transaction ends and counts -/
  | commit
  /-- a transaction ends and does not count -/
  | rollback
  /-- does the database answer? -/
  | health
  /-- the tables are made -/
  | createTables
  /-- a run is put in the place of an earlier one with its key, or added -/
  | upsertRun (run : Run)
  /-- the latest runs that a query admits -/
  | latestRuns (query : HistoryQuery)
  /-- a dataflow is added -/
  | createDataflow (dataflow : NewDataflow)
  /-- the dataflow of a deployment -/
  | findDataflow (deploymentId : String)
  /-- a dataflow is added, or its metadata replaced -/
  | saveDataflow (dataflow : Dataflow)

namespace Statement

/-- Names separated by commas. -/
def commaSeparated (names : List String) : String := ", ".intercalate names

/-- The places of `n` values. -/
def places (n : Nat) : String :=
  commaSeparated ((List.range n).map fun i => "$" ++ toString (i + 1))

/-- An assignment of the value that could not be added. -/
def assignment (label : String) : String := label ++ " = EXCLUDED." ++ label

/-- The columns of runs, by name. -/
def runLabels : List String := RunColumn.all.map RunColumn.label

/-- The columns of dataflows, by name, the number first. -/
def dataflowLabels : List String := "dataflow_id" :: DataflowColumn.all.map DataflowColumn.label

/-- A row added to a table. -/
def insertText (table : String) (labels : List String) : String :=
  "INSERT INTO " ++ table ++ " (" ++ commaSeparated labels ++ ") VALUES ("
    ++ places labels.length ++ ")"

/-- The making of the tables. -/
def createTablesText : String :=
  "-- Dataflows tracked by the control plane and their flow-run history "
    ++ "CREATE TABLE IF NOT EXISTS org_dataflows ( dataflow_id BIGSERIAL PRIMARY KEY, "
    ++ "name CHARACTER VARYING(256) NOT NULL, deployment_id TEXT NOT NULL UNIQUE, "
    ++ "deployment_name CHARACTER VARYING(256) NOT NULL, cron CHARACTER VARYING(64), "
    ++ "dataflow_type CHARACTER VARYING(32) NOT NULL DEFAULT 'orchestrate', meta JSONB, "
    ++ "created_at TIMESTAMPTZ NOT NULL DEFAULT NOW(), "
    ++ "updated_at TIMESTAMPTZ NOT NULL DEFAULT NOW() ); "
    ++ "CREATE TABLE IF NOT EXISTS prefect_flow_runs ( flow_run_id TEXT PRIMARY KEY, "
    ++ "deployment_id TEXT NOT NULL, name CHARACTER VARYING(256) NOT NULL, "
    ++ "start_time TIMESTAMPTZ NOT NULL, expected_start_time TIMESTAMPTZ NOT NULL, "
    ++ "total_run_time DOUBLE PRECISION NOT NULL CHECK (total_run_time >= 0), "
    ++ "status CHARACTER VARYING(32) NOT NULL, state_name CHARACTER VARYING(64) NOT NULL ); "
    ++ "CREATE INDEX IF NOT EXISTS idx_prefect_flow_runs_deployment_status_start "
    ++ "ON prefect_flow_runs (deployment_id, status, start_time DESC);"

/-- The text of a statement. -/
def text : Statement → String
  | begin => "BEGIN"
  | commit => "COMMIT"
  | rollback => "ROLLBACK"
  | health => "SELECT 1 as health"
  | createTables => createTablesText
  | upsertRun _ =>
    insertText "prefect_flow_runs" runLabels ++ " ON CONFLICT (flow_run_id) DO UPDATE SET "
      ++ commaSeparated (RunColumn.replaced.map fun c => assignment c.label)
  | latestRuns _ =>
    "SELECT " ++ commaSeparated runLabels ++ " FROM prefect_flow_runs WHERE deployment_id = $1 "
      ++ "AND status = ANY($2) ORDER BY start_time DESC, flow_run_id DESC LIMIT $3"
  | createDataflow _ =>
    insertText "org_dataflows" (DataflowColumn.initial.map DataflowColumn.label) ++ " RETURNING "
      ++ commaSeparated dataflowLabels
  | findDataflow _ =>
    "SELECT " ++ commaSeparated dataflowLabels ++ " FROM org_dataflows WHERE deployment_id = $1"
  | saveDataflow _ =>
    insertText "org_dataflows" (DataflowColumn.all.map DataflowColumn.label)
      ++ " ON CONFLICT (deployment_id) DO UPDATE SET "
      ++ commaSeparated (DataflowColumn.replaced.map (fun c => assignment c.label)
        ++ ["updated_at = NOW()"])

/-- The values that are sent with a statement, in the order of their places. -/
def parameters : Statement → List Parameter
  | upsertRun r => RunColumn.all.map fun c => c.value r
  | latestRuns q =>
    [.text q.deploymentId, .texts (q.statuses.map Status.name), .integer q.limit.toNat]
  | createDataflow d =>
    [.text d.name, .text d.deploymentId, .text d.deploymentName, .ofText? d.cron,
      .text d.dataflowType]
  | findDataflow id => [.text id]
  | saveDataflow d => DataflowColumn.all.map fun c => c.value d
  | _ => []

end Statement

end FlowRuns
