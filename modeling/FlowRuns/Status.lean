import FlowRuns.Json.Decode
import FlowRuns.Text.Case

/-!
# States of a flow run

The nine states that the orchestrator reports, their names, and the two ways of reading one: as a
person types it (blanks around it and letter case ignored) and as it is exchanged (exactly).
-/

namespace FlowRuns

/-- The state of a flow run. -/
inductive Status where
  /-- planned, not yet due -/
  | scheduled
  /-- due, not yet started -/
  | pending
  /-- under way -/
  | running
  /-- suspended -/
  | paused
  /-- being stopped -/
  | cancelling
  /-- ended as it should -/
  | completed
  /-- ended with an error -/
  | failed
  /-- stopped -/
  | cancelled
  /-- ended by a failure around it -/
  | crashed
  deriving DecidableEq, Inhabited, Repr

namespace Status

/-- All states, in their usual order. -/
def all : List Status :=
  [scheduled, pending, running, paused, cancelling, completed, failed, cancelled, crashed]

/-- The name that is exchanged and stored. -/
def name : Status → String
  | scheduled => "SCHEDULED"
  | pending => "PENDING"
  | running => "RUNNING"
  | paused => "PAUSED"
  | cancelling => "CANCELLING"
  | completed => "COMPLETED"
  | failed => "FAILED"
  | cancelled => "CANCELLED"
  | crashed => "CRASHED"

/-- The word by which a state is called in diagnostics. -/
def word : Status → String
  | scheduled => "Scheduled"
  | pending => "Pending"
  | running => "Running"
  | paused => "Paused"
  | cancelling => "Cancelling"
  | completed => "Completed"
  | failed => "Failed"
  | cancelled => "Cancelled"
  | crashed => "Crashed"

/-- The state with a given name, exactly. -/
def ofName? (s : String) : Option Status := all.find? fun st => st.name = s

theorem mem_all (st : Status) : st ∈ all := by
  cases st <;> decide

theorem ofName?_name (st : Status) : ofName? st.name = some st := by
  cases st <;> rfl

theorem name_inj {a b : Status} : a.name = b.name ↔ a = b := by
  refine ⟨fun h => Option.some.inj ?_, congrArg name⟩
  rw [← ofName?_name a, ← ofName?_name b, h]

/-- The form in which a typed name is looked up: without blanks around it, in upper case. -/
def normalize (s : String) : String := Text.upperAscii (Text.trim s)

/-- The state that a person means by a name; otherwise the name as it was looked up. -/
def parse (s : String) : Except String Status :=
  match ofName? (normalize s) with
  | some st => .ok st
  | none => .error (normalize s)

/-- What is said about a name that is no state's. -/
def unknownText (normalized : String) : String := "Unknown flow run status: " ++ normalized

/-- Reads a state as it is exchanged. -/
def decoder : Decoder Status := Decoder.named ofName? (all.map name)

end Status

end FlowRuns
