import FlowRuns.Dataflow.Store
import FlowRuns.History.Memory
import FlowRuns.Stats.Service
import FlowRuns.Sync

/-!
# Sessions

A session is a sequence of steps on stores in memory. Each step is an operation of a store or one of
the services that use the stores. Any operation of the stores may be put out of order for a while:
from then on it fails, whoever calls it, before it touches the store.

* `Stores` — a history, a store of dataflows, and which of their operations are out of order.
* `Step`, `Step.run` — the steps, and what each gives, reports and leaves behind.
* `Stores.after` — the stores after a sequence of steps.
-/

namespace FlowRuns

/-! ## Stores that may fail -/

/-- The operations of the stores that services call. -/
inductive StoreOperation where
  /-- the latest runs are asked for -/
  | queryRuns
  /-- runs are recorded -/
  | recordRuns
  /-- a dataflow is looked up -/
  | findDataflow
  /-- a dataflow is saved -/
  | saveDataflow
  deriving DecidableEq

/-- Two stores in memory and the faults of their operations. -/
structure Stores where
  /-- the history -/
  history : MemoryHistory
  /-- the dataflows -/
  dataflows : MemoryDataflows
  /-- the error with which an operation fails while it is out of order -/
  fault : StoreOperation → Option FlowError

namespace Stores

/-- Stores in working order. -/
def working (history : MemoryHistory) (dataflows : MemoryDataflows) : Stores :=
  ⟨history, dataflows, fun _ => none⟩

instance : Inhabited Stores := ⟨working .empty .empty⟩

/-- The same stores with an operation out of order, or in order again. -/
def withFault (s : Stores) (op : StoreOperation) (e : Option FlowError) : Stores :=
  { s with fault := fun o => if o = op then e else s.fault o }

/-- The history as a collaborator. -/
def serveHistory : (r : HistoryRequest) → Stores → historyPeer.Answer r × Stores
  | .latest q, s =>
    match s.fault .queryRuns with
    | some e => (.error e, s)
    | none => (.ok (s.history.latest q), s)
  | .record runs, s =>
    match s.fault .recordRuns with
    | some e => (.error e, s)
    | none => (.ok (MemoryHistory.batchSize runs), { s with history := s.history.record runs })

/-- The dataflows as a collaborator. -/
def serveDataflows : (r : DataflowRequest) → Stores → dataflowPeer.Answer r × Stores
  | .find id, s =>
    match s.fault .findDataflow with
    | some e => (.error e, s)
    | none => (.ok (s.dataflows.get? id), s)
  | .save d, s =>
    match s.fault .saveDataflow with
    | some e => (.error e, s)
    | none => (.ok (), { s with dataflows := s.dataflows.save d })

/-- Both as the collaborators of the statistics service. -/
def serve : (r : storesPeer.Request) → Stores → storesPeer.Answer r × Stores
  | .inl r, s => serveHistory r s
  | .inr r, s => serveDataflows r s

/-- A source that gives one answer to every request, and the history. -/
def serveSync (answer : Except FlowError (List Run)) :
    (r : syncPeer.Request) → Stores → syncPeer.Answer r × Stores
  | .inl _, s => (answer, s)
  | .inr r, s => serveHistory r s

end Stores

/-! ## Steps -/

/-- One step of a session. -/
inductive Step where
  /-- runs are recorded -/
  | record (runs : List Run)
  /-- the latest runs are asked for -/
  | query (query : HistoryQuery)
  /-- a dataflow is put into the store -/
  | insert (dataflow : Dataflow)
  /-- a dataflow is saved -/
  | save (dataflow : Dataflow)
  /-- the dataflow of a deployment is read from the store itself -/
  | get (deploymentId : String)
  /-- the dataflow of a deployment is looked up -/
  | find (deploymentId : String)
  /-- an operation gets out of order, or in order again -/
  | setFault (op : StoreOperation) (e : Option FlowError)
  /-- the statistics of a deployment's dataflow are computed -/
  | compute (deploymentId : String) (options : StatsOptions)
  /-- the statistics of a dataflow in hand are computed -/
  | computeOn (dataflow : Dataflow) (options : StatsOptions)
  /-- flow runs are copied from a source that gives this answer -/
  | sync (deploymentId : String) (limit : Option UInt32) (answer : Except FlowError (List Run))

/-- What a step gives. -/
inductive StepValue where
  /-- nothing -/
  | nothing
  /-- how many runs were recorded -/
  | count (n : UInt64)
  /-- runs -/
  | runs (runs : List Run)
  /-- a dataflow, or none -/
  | dataflow (dataflow : Option Dataflow)
  /-- a dataflow as it is now, and its statistics -/
  | computed (dataflow : Dataflow) (stats : RunTimeStats)

/-- What is left of a step: its result, its events, the requests it put to a source of flow runs,
the dataflow in hand, and the stores. -/
structure StepOutcome where
  /-- the result -/
  result : Except Failure StepValue
  /-- the events in order -/
  events : List Event
  /-- the requests to the source -/
  sourceRequests : List FlowRunsRequest
  /-- the dataflow in hand as its owner holds it afterwards, if there was one in hand -/
  inHand : Option Dataflow
  /-- the stores afterwards -/
  stores : Stores

namespace StepOutcome

/-- The outcome of a step that reports nothing and asks no source. -/
def quiet (result : Except Failure StepValue) (stores : Stores) : StepOutcome :=
  ⟨result, [], [], none, stores⟩

/-- The outcome of one request to a store. -/
def ofAnswer {α : Type} (value : α → StepValue) (answer : Except FlowError α × Stores) :
    StepOutcome :=
  quiet (match answer.1 with
    | .ok a => .ok (value a)
    | .error e => .error (.error e)) answer.2

/-- The outcome of a program over the stores. -/
def ofProgram {α : Type} (value : α → StepValue) (p : Fallible storesPeer α) (s : Stores) :
    StepOutcome :=
  let o := ExceptT.run p |>.run Stores.serve s
  ⟨o.result.map value, o.events, [], none, o.state⟩

/-- The outcome of a computation on a dataflow in hand. -/
def ofInPlace (m : InPlace storesPeer Dataflow RunTimeStats) (d : Dataflow) (s : Stores) :
    StepOutcome :=
  let o := (m.program d).run Stores.serve s
  ⟨o.result.1.map (.computed o.result.2), o.events, [], some o.result.2, o.state⟩

end StepOutcome

/-- The requests to the source among those of a sync. -/
def sourceRequestsOf (requests : List syncPeer.Request) : List FlowRunsRequest :=
  requests.filterMap fun
    | .inl r => some r
    | .inr _ => none

/-- **One step** on stores. -/
def Step.run : Step → Stores → StepOutcome
  | record runs, s => .ofAnswer .count (s.serveHistory (.record runs))
  | query q, s => .ofAnswer .runs (s.serveHistory (.latest q))
  | insert d, s => .quiet (.ok .nothing) { s with dataflows := s.dataflows.insert d }
  | save d, s => .ofAnswer (fun () => .nothing) (s.serveDataflows (.save d))
  | get id, s => .quiet (.ok (.dataflow (s.dataflows.get? id))) s
  | find id, s => .ofAnswer .dataflow (s.serveDataflows (.find id))
  | setFault op e, s => .quiet (.ok .nothing) (s.withFault op e)
  | compute id o, s => .ofProgram (fun r => .computed r.1 r.2) (StatsService.computeFor id o) s
  | computeOn d o, s => .ofInPlace (StatsService.computeInPlace o) d s
  | sync id limit answer, s =>
    let o := ExceptT.run (syncDeployment id limit)
      |>.run (Program.recording (Stores.serveSync answer)) (s, [])
    ⟨o.result.map .count, o.events, sourceRequestsOf o.state.2, none, o.state.1⟩

/-- The stores after a sequence of steps. -/
def Stores.after (s : Stores) (steps : List Step) : Stores :=
  steps.foldl (fun s step => (step.run s).stores) s

end FlowRuns
