import FlowRuns.Dataflow
import FlowRuns.Error
import FlowRuns.Run

/-!
# Rows

What the database returns: columns with names and types, and rows of cells. A value of the domain is
read from a row by the names of its columns; further columns do not matter, and the order of columns
does not either.
-/

namespace FlowRuns

/-- The type of a column. -/
inductive ColumnType where
  /-- text of any length -/
  | text
  /-- text of a bounded length -/
  | boundedText
  /-- integers of 64 bits -/
  | int64
  /-- integers of 32 bits -/
  | int32
  /-- floating-point numbers of 64 bits -/
  | float64
  /-- points in time -/
  | instant
  /-- JSON values -/
  | json
  /-- any other type -/
  | other
  deriving DecidableEq, Inhabited

/-- What stands in a column of a row. -/
inductive Cell where
  /-- nothing -/
  | null
  /-- a text -/
  | text (value : String)
  /-- an integer -/
  | integer (value : Int)
  /-- a floating-point number -/
  | float (value : Binary64)
  /-- a point in time, in microseconds since 1970 -/
  | time (microseconds : Int)
  /-- a JSON value, none if it is malformed -/
  | json (value : Option Json)
  deriving Inhabited

/-- A column: its name and its type. -/
structure Column where
  /-- the name -/
  name : String
  /-- the type -/
  type : ColumnType
  deriving DecidableEq, Inhabited

/-- What a statement returns. -/
structure ResultSet where
  /-- the columns -/
  columns : List Column
  /-- the rows -/
  rows : List (List Cell)
  deriving Inhabited

/-- A row: cells under their columns. -/
abbrev Row := List (Column × Cell)

namespace Row

/-! ## Single columns -/

/-- How the cells of some types of columns are read. -/
structure Field (α : Type) where
  /-- the types -/
  types : List ColumnType
  /-- the value of a cell -/
  read? : Cell → Option α

/-- A text. -/
def Field.text : Field String where
  types := [.text, .boundedText]
  read?
    | .text s => some s
    | _ => none

/-- An integer of 64 bits. -/
def Field.int64 : Field Int64 where
  types := [.int64]
  read?
    | .integer i => some (Int64.ofInt i)
    | _ => none

/-- An integer of 32 bits. -/
def Field.int32 : Field Int where
  types := [.int32]
  read?
    | .integer i => some i
    | _ => none

/-- A floating-point number. -/
def Field.float : Field Binary64 where
  types := [.float64]
  read?
    | .float x => some x
    | _ => none

/-- A point in time. -/
def Field.instant : Field Instant where
  types := [.instant]
  read?
    | .time us => some (Instant.ofMicroseconds us)
    | _ => none

/-- A JSON value. -/
def Field.json : Field Json where
  types := [.json]
  read?
    | .json j => j
    | _ => none

/-- A state, by its name as a person types it. -/
def Field.status : Field Status where
  types := [.text, .boundedText]
  read?
    | .text s => (Status.parse s).toOption
    | _ => none

/-- The column of a name; of several the last one. -/
def find? (r : Row) (name : String) : Option (Column × Cell) :=
  r.reverse.find? fun c => c.1.name = name

/-- The value in the column of a name, none if there is nothing. -/
def optional {α : Type} (r : Row) (name : String) (f : Field α) :
    Except DatabaseFault (Option α) :=
  match r.find? name with
  | none => .error (.columnNotFound name)
  | some (_, .null) => .ok none
  | some (c, cell) =>
    if f.types.contains c.type then
      match f.read? cell with
      | some a => .ok (some a)
      | none => .error (.columnDecode name)
    else .error (.columnDecode name)

/-- The value in the column of a name; there has to be one. -/
def required {α : Type} (r : Row) (name : String) (f : Field α) : Except DatabaseFault α := do
  match ← r.optional name f with
  | some a => return a
  | none => throw (.columnDecode name)

/-! ## Values of the domain -/

/-- The run in a row. -/
def run (r : Row) : Except DatabaseFault Run := do
  return {
    deploymentId := ← r.required "deployment_id" .text
    flowRunId := ← r.required "flow_run_id" .text
    name := ← r.required "name" .text
    startTime := ← r.required "start_time" .instant
    expectedStartTime := ← r.required "expected_start_time" .instant
    totalRunTime := ← r.required "total_run_time" .float
    status := ← r.required "status" .status
    stateName := ← r.required "state_name" .text }

/-- The dataflow in a row. -/
def dataflow (r : Row) : Except DatabaseFault Dataflow := do
  return {
    dataflowId := ← r.required "dataflow_id" .int64
    name := ← r.required "name" .text
    deploymentId := ← r.required "deployment_id" .text
    deploymentName := ← r.required "deployment_name" .text
    cron := ← r.optional "cron" .text
    dataflowType := ← r.required "dataflow_type" .text
    metadata := ← r.optional "meta" .json }

end Row

namespace ResultSet

/-- No rows. -/
def empty : ResultSet := ⟨[], []⟩

/-- The rows with their columns. -/
def namedRows (s : ResultSet) : List Row := s.rows.map fun cells => s.columns.zip cells

/-- The values in all rows, or the first fault. -/
def all {α : Type} (read : Row → Except DatabaseFault α) (s : ResultSet) :
    Except DatabaseFault (List α) :=
  s.namedRows.mapM read

/-- The value in the first row, none if there is no row. -/
def first? {α : Type} (read : Row → Except DatabaseFault α) (s : ResultSet) :
    Except DatabaseFault (Option α) :=
  s.namedRows.head?.mapM read

/-- The value in the first row; there has to be one. -/
def first {α : Type} (read : Row → Except DatabaseFault α) (s : ResultSet) :
    Except DatabaseFault α :=
  match s.namedRows.head? with
  | some r => read r
  | none => .error .rowNotFound

end ResultSet

end FlowRuns
