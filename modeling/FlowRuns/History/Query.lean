import FlowRuns.Run
import FlowRuns.Program

/-!
# The run history as a collaborator

A history keeps runs by their flow run id. It is asked for the latest runs of a deployment in given
states, and it is given runs to record.
-/

namespace FlowRuns

/-- Which runs are wanted: at most so many of the latest of a deployment, in given states. -/
structure HistoryQuery where
  /-- the deployment -/
  deploymentId : String
  /-- the states -/
  statuses : List Status
  /-- how many runs at most -/
  limit : UInt32
  deriving DecidableEq, Inhabited

/-- Whether a run is of the deployment and in one of the states. -/
def HistoryQuery.admits (q : HistoryQuery) (r : Run) : Bool :=
  r.deploymentId = q.deploymentId && q.statuses.contains r.status

/-- What a history is asked. -/
inductive HistoryRequest where
  /-- for the latest runs that a query admits, newest first -/
  | latest (query : HistoryQuery)
  /-- to keep runs, each in place of an earlier one with its flow run id -/
  | record (runs : List Run)

/-- A history as a collaborator: runs, or how many were recorded; or an error. -/
def historyPeer : Peer where
  Request := HistoryRequest
  Answer
    | .latest _ => Except FlowError (List Run)
    | .record _ => Except FlowError UInt64

end FlowRuns
