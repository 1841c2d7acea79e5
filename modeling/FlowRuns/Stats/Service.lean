import FlowRuns.Dataflow.Store
import FlowRuns.History.Query
import FlowRuns.Stats.Compute
import FlowRuns.Validation

/-!
# Statistics of a dataflow

The statistics service computes a dataflow's run-time statistics from its run history and stores
them beside the dataflow. It talks to a history and to a store of dataflows and keeps nothing.

* `StatsService.computeInPlace` — for a dataflow that stands in its owner's place.
* `StatsService.computeOn` — for a dataflow in hand.
* `StatsService.computeFor` — for the dataflow of a deployment, which is looked up first.

The dataflow changes only once the store has accepted the new snapshot; where no run qualifies,
neither it nor the store is touched. Two computations for one dataflow race, and the last to save
wins.
-/

namespace FlowRuns

/-- The collaborators of the statistics service: a history and a store of dataflows. -/
abbrev storesPeer : Peer := historyPeer.both dataflowPeer

namespace StatsService

/-- How the service shows in diagnostics: its collaborators are not shown. -/
def shown : String := "RunTimeStatsService \x7b .. \x7d"

/-- Asks the history for the latest runs. -/
def latestRuns (q : HistoryQuery) : Fallible storesPeer (List Run) := do
  Fallible.ofExcept (← Fallible.ask (P := storesPeer) (.inl (.latest q)))

/-- Asks the store for the dataflow of a deployment. -/
def findDataflow (deploymentId : String) : Fallible storesPeer (Option Dataflow) := do
  Fallible.ofExcept (← Fallible.ask (P := storesPeer) (.inr (.find deploymentId)))

/-- Asks the store to keep a dataflow. -/
def saveDataflow (d : Dataflow) : Fallible storesPeer Unit := do
  Fallible.ofExcept (← Fallible.ask (P := storesPeer) (.inr (.save d)))

/-- **Computes and stores** the statistics of the dataflow that stands in its owner's place. The new
snapshot is put there last, once the store has accepted it. -/
def computeInPlace (o : StatsOptions) : InPlace storesPeer Dataflow RunTimeStats := do
  let d ← get
  InPlace.ofExcept (Validation.deploymentId d.deploymentId)
  InPlace.ofExcept (Validation.historyLimit o.limit)
  InPlace.ofExcept (Validation.statuses o.statuses)
  let runs ← latestRuns ⟨d.deploymentId, o.statuses, o.limit⟩
  InPlace.note (.historyFetched d.deploymentId runs.length o)
  if runs.isEmpty then
    InPlace.note (.statsComputed d.deploymentId 0 .noRuns false)
    return .noRuns
  let stats ← InPlace.orPanic (computeRunTimeStats? runs)
  let updated := d.withRunTimeStats stats
  saveDataflow updated
  set updated
  InPlace.note (.statsComputed updated.deploymentId runs.length stats true)
  return stats

/-- The same for a dataflow in hand; gives the dataflow as it is afterwards, and the statistics. -/
def computeOn (d : Dataflow) (o : StatsOptions) : Fallible storesPeer (Dataflow × RunTimeStats) :=
  (computeInPlace o).toFallible d

/-- **Looks up** the dataflow of a deployment, then computes and stores its statistics. -/
def computeFor (deploymentId : String) (o : StatsOptions) :
    Fallible storesPeer (Dataflow × RunTimeStats) := do
  Fallible.ofExcept (Validation.deploymentId deploymentId)
  match ← findDataflow deploymentId with
  | some d => computeOn d o
  | none => Fallible.fail (.notFound ("dataflow for deployment " ++ deploymentId))

end StatsService

end FlowRuns
