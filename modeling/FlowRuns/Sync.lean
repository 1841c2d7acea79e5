import FlowRuns.History.Query
import FlowRuns.Validation

/-!
# Copying flow runs into the history

A source reports the flow runs of a deployment; they are recorded in the history, so that
statistics can be computed without asking the source again.
-/

namespace FlowRuns

/-- What a source of flow runs is asked: the latest of a deployment, at most so many if a limit is
given. -/
structure FlowRunsRequest where
  /-- the deployment -/
  deploymentId : String
  /-- how many at most -/
  limit : Option UInt32
  deriving DecidableEq, Inhabited

/-- A source of flow runs as a collaborator. -/
def sourcePeer : Peer where
  Request := FlowRunsRequest
  Answer _ := Except FlowError (List Run)

/-- The collaborators of a sync: a source and a history. -/
abbrev syncPeer : Peer := sourcePeer.both historyPeer

/-- **Pulls** the flow runs of a deployment and records them; gives how many were recorded. -/
def syncDeployment (deploymentId : String) (limit : Option UInt32) :
    Fallible syncPeer UInt64 := do
  Fallible.ofExcept (Validation.deploymentId deploymentId)
  let runs ← Fallible.ofExcept
    (← Fallible.ask (P := syncPeer) (.inl ⟨deploymentId, limit⟩))
  let recorded ← Fallible.ofExcept
    (← Fallible.ask (P := syncPeer) (.inr (.record runs)))
  Fallible.note (.runsSynced deploymentId runs.length recorded)
  return recorded

end FlowRuns
