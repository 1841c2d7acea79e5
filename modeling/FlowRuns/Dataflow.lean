import FlowRuns.Stats.Basic

/-!
# Dataflows

A dataflow is a workflow that can be scheduled, backed by a deployment. Beside it stands a JSON
value, its metadata, which holds the latest snapshot of its run-time statistics, or nothing.
-/

namespace FlowRuns

/-- A workflow backed by a deployment. -/
structure Dataflow where
  /-- its number -/
  dataflowId : Int64
  /-- its name -/
  name : String
  /-- the deployment behind it -/
  deploymentId : String
  /-- the name of that deployment -/
  deploymentName : String
  /-- its schedule -/
  cron : Option String
  /-- what kind of dataflow it is -/
  dataflowType : String
  /-- the latest snapshot, or whatever else was put there -/
  metadata : Option Json
  deriving Inhabited

/-- A dataflow that has no number yet. -/
structure NewDataflow where
  /-- its name -/
  name : String
  /-- the deployment behind it -/
  deploymentId : String
  /-- the name of that deployment -/
  deploymentName : String
  /-- its schedule -/
  cron : Option String
  /-- what kind of dataflow it is -/
  dataflowType : String
  deriving DecidableEq, Inhabited

namespace Dataflow

/-- The snapshot that the metadata holds, if it holds one. -/
def runTimeStats? (d : Dataflow) : Option RunTimeStats :=
  match d.metadata with
  | some j => (RunTimeStats.decoder j).toOption
  | none => none

/-- The dataflow with a snapshot in its metadata. -/
def withRunTimeStats (d : Dataflow) (s : RunTimeStats) : Dataflow :=
  { d with metadata := some s.toJson }

/-- The seven fields as they are exchanged. -/
def record : Record Dataflow :=
  Dataflow.mk <$> .required "dataflow_id" .int64
    <*> .required "name" .string
    <*> .required "deployment_id" .string
    <*> .required "deployment_name" .string
    <*> .optional "cron" .string
    <*> .required "dataflow_type" .string
    <*> .field "meta" .any (some none) none

/-- Reads a dataflow. -/
def decoder : Decoder Dataflow := record.decoder "Dataflow"

end Dataflow

namespace NewDataflow

/-- The five fields as they are exchanged. -/
def record : Record NewDataflow :=
  NewDataflow.mk <$> .required "name" .string
    <*> .required "deployment_id" .string
    <*> .required "deployment_name" .string
    <*> .optional "cron" .string
    <*> .required "dataflow_type" .string

/-- Reads a new dataflow. -/
def decoder : Decoder NewDataflow := record.decoder "NewDataflow"

end NewDataflow

end FlowRuns
