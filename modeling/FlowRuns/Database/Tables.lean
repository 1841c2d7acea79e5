import FlowRuns.Database.Statement

/-!
# Tables

What the statements mean on tables with a key, apart from the text by which they are sent.

* `Tables.upsert` — a row is added; where its key is taken, the row there takes over some columns.
* `RunTable.upsert`, `RunTable.Selects` — the runs, by flow run id. A selection is any list that the
  statement allows: the rows it asks for, in some order that its sort keys admit, cut at its limit.
* `DataflowTable.save`, `DataflowTable.row?` — the dataflows, by deployment id. The table numbers
  its rows itself, and a number once drawn is gone.
-/

namespace FlowRuns

/-! ## Rows under keys -/

/-- Adds a row, or merges it into the rows that have its key. -/
def Tables.upsert {ρ κ : Type} [DecidableEq κ] (key : ρ → κ) (merge : (new old : ρ) → ρ) (new : ρ)
    (rows : List ρ) : List ρ :=
  if rows.any fun r => key r = key new then
    rows.map fun r => if key r = key new then merge new r else r
  else rows ++ [new]

/-! ## Runs -/

/-- The table of runs. -/
structure RunTable where
  /-- the rows, in no particular order -/
  rows : List Run
  deriving Inhabited

namespace RunTable

/-- No rows. -/
def empty : RunTable := ⟨[]⟩

/-- A row that takes over the columns that a statement replaces. -/
def merge (new old : Run) : Run := RunColumn.replaced.foldl (fun r c => c.copy new r) old

/-- Executes the statement that puts a run into the table. -/
def upsert (t : RunTable) (r : Run) : RunTable := ⟨Tables.upsert Run.flowRunId merge r t.rows⟩

/-- Executes that statement for runs one after another. -/
def record (t : RunTable) (runs : List Run) : RunTable := runs.foldl upsert t

/-- Whether a row is one that a selection asks for: its deployment is the one given and the name of
its state is among those given. -/
def Asked (q : HistoryQuery) (r : Run) : Prop :=
  r.deploymentId = q.deploymentId ∧ r.status.name ∈ q.statuses.map Status.name

instance (q : HistoryQuery) : DecidablePred (Asked q) :=
  fun _ => inferInstanceAs (Decidable (_ ∧ _))

/-- Whether a row may stand before another in a selection: its start time is later, or it is the
same and its flow run id is no smaller. -/
def Before (a b : Run) : Prop :=
  b.startTime < a.startTime ∨ a.startTime = b.startTime ∧ b.flowRunId ≤ a.flowRunId

/-- **A selection** of the latest runs: the rows it asks for in an admissible order, cut at its
limit. -/
def Selects (t : RunTable) (q : HistoryQuery) (answer : List Run) : Prop :=
  ∃ ordered : List Run, ordered.Perm (t.rows.filter fun r => Asked q r)
    ∧ ordered.Pairwise Before ∧ answer = ordered.take q.limit.toNat

end RunTable

/-! ## Dataflows -/

/-- The table of dataflows. -/
structure DataflowTable where
  /-- the rows, in no particular order -/
  rows : List Dataflow
  /-- how many numbers were drawn for rows -/
  drawn : Nat
  deriving Inhabited

namespace DataflowTable

/-- No rows. -/
def empty : DataflowTable := ⟨[], 0⟩

/-- A row that takes over the columns that a statement replaces. -/
def merge (new old : Dataflow) : Dataflow :=
  DataflowColumn.replaced.foldl (fun d c => c.copy new d) old

/-- Executes the statement that saves a dataflow. A number is drawn for the row whether or not it
is added. -/
def save (t : DataflowTable) (d : Dataflow) : DataflowTable where
  rows := Tables.upsert Dataflow.deploymentId merge
    { d with dataflowId := Int64.ofNat (t.drawn + 1) } t.rows
  drawn := t.drawn + 1

/-- The row of a deployment. -/
def row? (t : DataflowTable) (deploymentId : String) : Option Dataflow :=
  t.rows.find? fun d => d.deploymentId = deploymentId

end DataflowTable

end FlowRuns
