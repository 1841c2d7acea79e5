import FlowRuns.Dataflow
import FlowRuns.Program

/-!
# The store of dataflows

The store as a collaborator, and a store in memory, which keeps one dataflow per deployment id and
counts how often one was saved.
-/

namespace FlowRuns

/-- What a store of dataflows is asked. -/
inductive DataflowRequest where
  /-- for the dataflow of a deployment -/
  | find (deploymentId : String)
  /-- to keep a dataflow -/
  | save (dataflow : Dataflow)

/-- A store of dataflows as a collaborator. -/
def dataflowPeer : Peer where
  Request := DataflowRequest
  Answer
    | .find _ => Except FlowError (Option Dataflow)
    | .save _ => Except FlowError Unit

/-- A store of dataflows in memory. -/
structure MemoryDataflows where
  /-- the dataflows under their deployment ids -/
  entries : List (String × Dataflow)
  /-- how many were saved -/
  saves : Nat
  deriving Inhabited

namespace MemoryDataflows

/-- No dataflows. -/
def empty : MemoryDataflows := ⟨[], 0⟩

/-- Puts a dataflow under its deployment id, in place of the one there. -/
def putEntry (d : Dataflow) : List (String × Dataflow) → List (String × Dataflow)
  | [] => [(d.deploymentId, d)]
  | (k, e) :: rest => if k = d.deploymentId then (k, d) :: rest else (k, e) :: putEntry d rest

/-- Puts a dataflow into the store without counting it as saved. -/
def insert (s : MemoryDataflows) (d : Dataflow) : MemoryDataflows :=
  { s with entries := putEntry d s.entries }

/-- The dataflow of a deployment. -/
def get? (s : MemoryDataflows) (deploymentId : String) : Option Dataflow :=
  s.entries.lookup deploymentId

/-- Saves a dataflow as a whole. -/
def save (s : MemoryDataflows) (d : Dataflow) : MemoryDataflows :=
  ⟨putEntry d s.entries, s.saves + 1⟩

/-- The store as a collaborator; it never fails. -/
def serve : (r : DataflowRequest) → MemoryDataflows → dataflowPeer.Answer r × MemoryDataflows
  | .find id, s => (.ok (s.get? id), s)
  | .save d, s => (.ok (), s.save d)

end MemoryDataflows

end FlowRuns
