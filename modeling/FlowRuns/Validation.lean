import FlowRuns.Error
import FlowRuns.Status
import FlowRuns.Text.Blank

/-!
# Validation of arguments

The checks at the boundary. Each succeeds, or says what is wrong with the argument.
-/

namespace FlowRuns

namespace Validation

/-- What a check gives. -/
abbrev Check := Except FlowError Unit

/-- Refuses with a violation. -/
def refuse (v : Violation) : Check := .error (.validation v)

/-- An identifier must not be blank. -/
def identifier (field value : String) : Check :=
  if Text.isBlank value then refuse (.blank field) else .ok ()

theorem identifier_of_blank {field value : String} (h : Text.isBlank value = true) :
    identifier field value = .error (.validation (.blank field)) := by
  rw [identifier, if_pos h, refuse]

theorem identifier_of_named {field value : String} (h : Text.isBlank value = false) :
    identifier field value = .ok () := by
  rw [identifier, if_neg (by rw [h]; exact Bool.false_ne_true)]

/-- A deployment is named by an identifier. -/
def deploymentId (value : String) : Check := identifier "deployment_id" value

/-- A flow run is named by an identifier. -/
def flowRunId (value : String) : Check := identifier "flow_run_id" value

/-- An identifier that becomes part of a path must not hold a slash. -/
def pathSegment (field value : String) : Check := do
  identifier field value
  if value.toList.contains '/' then refuse (.slash field value) else .ok ()

/-- A history must have room for a run. -/
def historyLimit (limit : UInt32) : Check := if limit = 0 then refuse .zeroLimit else .ok ()

/-- There must be a state that a run may be in. -/
def statuses (ss : List Status) : Check := if ss.isEmpty then refuse .noStatuses else .ok ()

/-- A page must have room for a line. -/
def pageSize (size : UInt32) : Check := if size = 0 then refuse .zeroPageSize else .ok ()

theorem pageSize_of_ne_zero {size : UInt32} (h : size ≠ 0) : pageSize size = .ok () := if_neg h

theorem ne_zero_of_pageSize {size : UInt32} (h : pageSize size = .ok ()) : size ≠ 0 := by
  rintro rfl
  cases h

end Validation

end FlowRuns
