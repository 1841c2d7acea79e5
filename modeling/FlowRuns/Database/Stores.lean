import FlowRuns.Database.Address
import FlowRuns.Database.Row
import FlowRuns.Database.Statement
import FlowRuns.Dataflow.Store
import FlowRuns.Settings.Basic
import FlowRuns.Stats.Service

/-!
# Stores in the database

The history and the store of dataflows over a database that executes statements. A statement gives
rows, or is refused, or the connection is lost on the way.

* `Database.connect`, `Database.migrate`, `Database.isHealthy` — the database as such.
* `Database.queryRuns`, `Database.recordRuns` — the history. Runs are recorded in one transaction:
  all of them, or none.
* `Database.findDataflow`, `Database.saveDataflow`, `Database.createDataflow` — the dataflows.
* `Database.serveStores`, `Database.serveHistory` — the database as the collaborator of a service.
-/

namespace FlowRuns

/-! ## The database as a collaborator -/

/-- What comes of a statement. -/
inductive DatabaseReply where
  /-- rows -/
  | rows (set : ResultSet)
  /-- a refusal, in words -/
  | refused (text : String)
  /-- the connection was lost -/
  | lost
  deriving Inhabited

/-- What a database is asked. -/
inductive DatabaseRequest where
  /-- to accept a connection -/
  | connect (address : String)
  /-- whether its tables were made before -/
  | hasTables
  /-- to execute a statement -/
  | execute (statement : Statement)

/-- A database as a collaborator. -/
def databasePeer : Peer where
  Request := DatabaseRequest
  Answer
    | .connect _ => Except DatabaseFault Unit
    | .hasTables => Except DatabaseFault Bool
    | .execute _ => DatabaseReply

namespace Database

/-- Ends with a failure of the database. -/
def fail {α : Type} (fault : DatabaseFault) : Attempt databasePeer α :=
  Attempt.fail (.database fault)

/-- Goes on with a result, or ends with a failure of the database. -/
def ofExcept {α : Type} : Except DatabaseFault α → Attempt databasePeer α
  | .ok a => pure a
  | .error fault => fail fault

/-- Executes a statement. -/
def execute (s : Statement) : Attempt databasePeer ResultSet := do
  match ← Attempt.ask (P := databasePeer) (.execute s) with
  | .rows set => return set
  | .refused text => fail (.server text)
  | .lost => fail .lost

/-- Executes a statement within a transaction. A refusal ends the transaction; a lost connection
leaves nothing to end. -/
def executeWithin (s : Statement) : Attempt databasePeer Unit := do
  match ← Attempt.ask (P := databasePeer) (.execute s) with
  | .rows _ => return
  | .refused text =>
    let _ ← Attempt.ask (P := databasePeer) (.execute .rollback)
    fail (.server text)
  | .lost => fail .lost

/-- Executes statements as one transaction. -/
def transaction (statements : List Statement) : Attempt databasePeer Unit := do
  let _ ← execute .begin
  statements.forM executeWithin
  executeWithin .commit

/-! ## The database as such -/

/-- Connects to the database. -/
def connect (s : DatabaseSettings) : Attempt databasePeer Unit := do
  if !DatabaseAddress.isUsable s.url then fail .badAddress
  ofExcept (← Attempt.ask (P := databasePeer) (.connect s.url))
  Attempt.note (.databaseConnected s.maxConnections)

/-- Makes the tables, unless that was done before. -/
def migrate : Attempt databasePeer Unit := do
  if !(← ofExcept (← Attempt.ask (P := databasePeer) .hasTables)) then
    transaction [.createTables]

/-- The number by which the database says that it is well. -/
def healthOf (r : Row) : Except DatabaseFault Int := r.required "health" .int32

/-- Whether the database says that it is well. It is taken for granted that it says a number. -/
def isHealthy : Fallible databasePeer Bool := do
  match ← Fallible.ask (P := databasePeer) (.execute .health) with
  | .refused text => Fallible.fail (.database (.server text))
  | .lost => Fallible.fail (.database .lost)
  | .rows set =>
    match set.namedRows.head? with
    | none => Fallible.fail (.database .rowNotFound)
    | some r => return (← Fallible.orPanic (healthOf r).toOption) = 1

/-! ## The history -/

/-- The latest runs that a query admits. -/
def queryRuns (q : HistoryQuery) : Attempt databasePeer (List Run) := do
  let set ← execute (.latestRuns q)
  let runs ← ofExcept (set.all Row.run)
  Attempt.note (.historyQueried q.deploymentId runs.length q.limit)
  return runs

/-- **Records runs**, all or none; gives how many. -/
def recordRuns (runs : List Run) : Attempt databasePeer UInt64 := do
  transaction (runs.map .upsertRun)
  return UInt64.ofNat runs.length

/-! ## The dataflows -/

/-- The dataflow of a deployment. -/
def findDataflow (deploymentId : String) : Attempt databasePeer (Option Dataflow) := do
  let set ← execute (.findDataflow deploymentId)
  ofExcept (set.first? Row.dataflow)

/-- Saves a dataflow. -/
def saveDataflow (d : Dataflow) : Attempt databasePeer Unit := do
  let _ ← execute (.saveDataflow d)

/-- Adds a dataflow and gives it as it is kept. -/
def createDataflow (d : NewDataflow) : Attempt databasePeer Dataflow := do
  let set ← execute (.createDataflow d)
  ofExcept (set.first Row.dataflow)

/-! ## The database as the collaborator of a service -/

/-- The database as a history. -/
def serveHistory : (r : HistoryRequest) → Program databasePeer (historyPeer.Answer r)
  | .latest q => (queryRuns q).program
  | .record runs => (recordRuns runs).program

/-- The database as a store of dataflows. -/
def serveDataflows : (r : DataflowRequest) → Program databasePeer (dataflowPeer.Answer r)
  | .find id => (findDataflow id).program
  | .save d => (saveDataflow d).program

/-- The database as both stores. -/
def serveStores : (r : storesPeer.Request) → Program databasePeer (storesPeer.Answer r)
  | .inl r => serveHistory r
  | .inr r => serveDataflows r

end Database

end FlowRuns
