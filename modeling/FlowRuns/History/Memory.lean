import FlowRuns.History.Query

/-!
# A run history in memory

The runs in the order in which their ids first appeared. Recording a run replaces the first one
with its id as a whole, or puts it at the end; a query filters, sorts and cuts.
-/

namespace FlowRuns

/-- A run history in memory. -/
structure MemoryHistory where
  /-- the runs -/
  runs : List Run
  deriving Inhabited

namespace MemoryHistory

/-- No runs. -/
def empty : MemoryHistory := ⟨[]⟩

/-- How many runs there are. -/
def size (h : MemoryHistory) : Nat := h.runs.length

/-- Whether there are none. -/
def isEmpty (h : MemoryHistory) : Bool := h.runs.isEmpty

/-! ## Recording -/

/-- Puts a run in the place of the first one with its id, or at the end. -/
def upsert (run : Run) : List Run → List Run
  | [] => [run]
  | r :: rest => if r.flowRunId = run.flowRunId then run :: rest else r :: upsert run rest

/-- Records runs one after another. -/
def record (h : MemoryHistory) (runs : List Run) : MemoryHistory :=
  ⟨runs.foldl (fun kept r => upsert r kept) h.runs⟩

/-- The run with a flow run id. -/
def find? (h : MemoryHistory) (flowRunId : String) : Option Run :=
  h.runs.find? fun r => r.flowRunId = flowRunId

/-! ## Querying -/

/-- Whether a run stands at or before another, newest first: by start time, then by flow run id,
both descending. -/
def newestFirst (a b : Run) : Bool :=
  b.startTime < a.startTime || (b.startTime = a.startTime && b.flowRunId ≤ a.flowRunId)

/-- The latest runs that a query admits, newest first. -/
def latest (h : MemoryHistory) (q : HistoryQuery) : List Run :=
  ((h.runs.filter q.admits).mergeSort newestFirst).take q.limit.toNat

/-! ## Serving -/

/-- How many runs a batch has, as a 64-bit number. -/
def batchSize (runs : List Run) : UInt64 := UInt64.ofNat runs.length

/-- The history as a collaborator; it never fails. -/
def serve : (r : HistoryRequest) → MemoryHistory → historyPeer.Answer r × MemoryHistory
  | .latest q, h => (.ok (h.latest q), h)
  | .record runs, h => (.ok (batchSize runs), h.record runs)

end MemoryHistory

end FlowRuns
