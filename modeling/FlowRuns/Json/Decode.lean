import FlowRuns.Json.Printer
import FlowRuns.Text.Quoted
import FlowRuns.Calendar.Timestamp

/-!
# Values of the domain from JSON

Decoders and what they report.

* `Mismatch` — the first thing about a JSON value that does not fit, and its wording.
* `Decoder` — from a JSON value to a value of the domain, or a mismatch.
* `Record` — a decoder of values with named fields. Such a value is read from an object, whose
  entries are visited by ascending key (so the least key decides which of several wrong fields is
  reported) and whose missing fields are reported after that in declaration order; or from a
  sequence of all fields in declaration order. Unknown keys are ignored.
-/

namespace FlowRuns

/-! ## Mismatches -/

/-- Why a JSON value is not read. -/
inductive Mismatch where
  /-- a value of another type than the expected one -/
  | wrongType (found : Json) (expected : String)
  /-- a value of the right type, but not one of those expected -/
  | wrongValue (found : Json) (expected : String)
  /-- a sequence with another number of elements -/
  | wrongLength (found : Nat) (expected : String)
  /-- a field without a value -/
  | missingField (name : String)
  /-- a name that is none of those known -/
  | unknownName (found : String) (known : List String)
  /-- a text that is no time stamp -/
  | badTimestamp
  deriving Inhabited

/-- How a value is called in a message. -/
def Json.described : Json → String
  | null => "null"
  | bool b => "boolean `" ++ (if b then "true" else "false") ++ "`"
  | int i => "integer `" ++ toString i ++ "`"
  | float x => "floating point `" ++ DecimalStyle.compact.text x ++ "`"
  | string s => "string " ++ Text.quoted s
  | array _ => "sequence"
  | object _ => "map"

namespace Mismatch

/-- Names between backquotes, joined by commas. -/
def namesText (names : List String) : String :=
  ", ".intercalate (names.map fun n => "`" ++ n ++ "`")

/-- The wording of a mismatch. -/
def message : Mismatch → String
  | wrongType found expected => "invalid type: " ++ found.described ++ ", expected " ++ expected
  | wrongValue found expected => "invalid value: " ++ found.described ++ ", expected " ++ expected
  | wrongLength found expected => "invalid length " ++ toString found ++ ", expected " ++ expected
  | missingField name => "missing field `" ++ name ++ "`"
  | unknownName found known =>
    "unknown variant `" ++ found ++ "`, expected one of " ++ namesText known
  | badTimestamp => "invalid time stamp"

/-- Whether the wording belongs to this library's contract; what exactly is wrong with a time stamp
is not told. -/
def isWorded : Mismatch → Bool
  | badTimestamp => false
  | _ => true

end Mismatch

/-! ## Single values -/

/-- Reads a value of the domain. -/
abbrev Decoder (α : Type) := Json → Except Mismatch α

namespace Decoder

/-- A text. -/
def string : Decoder String
  | .string s => .ok s
  | j => .error (.wrongType j "a string")

/-- `true` or `false`. -/
def bool : Decoder Bool
  | .bool b => .ok b
  | j => .error (.wrongType j "a boolean")

/-- An integer between two bounds; `name` is what a message calls their range. -/
def integer (low high : Int) (name : String) : Decoder Int
  | .int i => if low ≤ i ∧ i ≤ high then .ok i else .error (.wrongValue (.int i) name)
  | j => .error (.wrongType j name)

/-- A signed 64-bit integer. -/
def int64 : Decoder Int64 := fun j =>
  (integer Int64.minValue.toInt Int64.maxValue.toInt "i64" j).map Int64.ofInt

/-- An unsigned 64-bit integer. -/
def uint64 : Decoder UInt64 := fun j =>
  (integer 0 (UInt64.size - 1) "u64" j).map fun i => UInt64.ofNat i.toNat

/-- An unsigned 32-bit integer. -/
def uint32 : Decoder UInt32 := fun j =>
  (integer 0 (UInt32.size - 1) "u32" j).map fun i => UInt32.ofNat i.toNat

/-- A floating-point number; an integer is rounded to one. -/
def binary64 : Decoder Binary64
  | .int i => .ok (.ofInt i)
  | .float x => .ok x
  | j => .error (.wrongType j "f64")

/-- A point in time, written as a time stamp in the relaxed form. -/
def instant : Decoder Instant
  | .string s =>
    match Instant.ofLenient? s with
    | some t => .ok t
    | none => .error .badTimestamp
  | j => .error (.wrongType j "an RFC 3339 formatted date and time string")

/-- A value or `null`. -/
def optional {α : Type} (decode : Decoder α) : Decoder (Option α)
  | .null => .ok none
  | j => (decode j).map some

/-- A sequence; its first wrong element is reported. -/
def list {α : Type} (decode : Decoder α) : Decoder (List α)
  | .array es => es.mapM decode
  | j => .error (.wrongType j "a sequence")

/-- Any value but `null`, which stands for none. -/
def any : Decoder (Option Json)
  | .null => .ok none
  | j => .ok (some j)

/-- One of several named values: its name, or an object whose only key is the name and whose value
is `null`. -/
def named {α : Type} (ofName? : String → Option α) (known : List String) : Decoder α
  | .string s =>
    match ofName? s with
    | some a => .ok a
    | none => .error (.unknownName s known)
  | .object [(k, v)] =>
    match ofName? k, v with
    | none, _ => .error (.unknownName k known)
    | some a, .null => .ok a
    | some _, v => .error (.wrongType v "unit")
  | .object es => .error (.wrongValue (.object es) "map with a single key")
  | j => .error (.wrongType j "string or map")

end Decoder

/-! ## Values with named fields -/

/-- A reading of named fields. -/
structure Record (α : Type) where
  /-- how many fields there are -/
  size : Nat
  /-- what is wrong with the value of one entry -/
  check : String → Json → Except Mismatch Unit
  /-- the result, from the values that are present; otherwise the first missing field -/
  build : (String → Option Json) → Except Mismatch α
  /-- the result from the elements of a sequence at a position, the next position, and the elements
  left; otherwise the first that is wrong or missing -/
  take : (shape : String) → Nat → List Json → Except Mismatch (α × Nat × List Json)

namespace Record

variable {α β : Type}

/-- No fields. -/
protected def pure (a : α) : Record α where
  size := 0
  check _ _ := .ok ()
  build _ := .ok a
  take _ i es := .ok (a, i, es)

/-- The fields of one reading, then those of another. -/
protected def seq (f : Record (α → β)) (a : Record α) : Record β where
  size := f.size + a.size
  check k v := do f.check k v; a.check k v
  build get := do return (← f.build get) (← a.build get)
  take shape i es := do
    let (g, i, es) ← f.take shape i es
    let (x, i, es) ← a.take shape i es
    return (g x, i, es)

instance : Applicative Record where
  pure := Record.pure
  seq f a := f.seq (a ())

/-- One field: its decoder, its value when an object lacks it, and its value when a sequence ends
before it. -/
def field (name : String) (decode : Decoder α) (inObject inSequence : Option α) : Record α where
  size := 1
  check k v := if k = name then (decode v).map fun _ => () else .ok ()
  build get :=
    match get name with
    | some v => decode v
    | none =>
      match inObject with
      | some a => .ok a
      | none => .error (.missingField name)
  take shape i es :=
    match es with
    | e :: rest => (decode e).map fun a => (a, i + 1, rest)
    | [] =>
      match inSequence with
      | some a => .ok (a, i + 1, [])
      | none => .error (.wrongLength i shape)

/-- A field that has to be there. -/
def required (name : String) (decode : Decoder α) : Record α := field name decode none none

/-- A field that is none when an object lacks it. -/
def optional (name : String) (decode : Decoder α) : Record (Option α) :=
  field name (Decoder.optional decode) (some none) none

/-- A field with a value of its own when it is missing. -/
def withDefault (name : String) (decode : Decoder α) (value : α) : Record α :=
  field name decode (some value) (some value)

/-- What a message says about the number of elements of a sequence. -/
def shape (r : Record α) (title : String) : String :=
  "struct " ++ title ++ " with " ++ toString r.size ++ " elements"

/-- The decoder of a reading; `title` is what messages call the value. -/
def decoder (r : Record α) (title : String) : Decoder α
  | .object entries => do
    entries.forM fun e => r.check e.1 e.2
    r.build fun k => entries.lookup k
  | .array es => do
    let (a, _, rest) ← r.take (r.shape title) 0 es
    if rest.isEmpty then return a
    else throw (.wrongLength es.length "fewer elements in array")
  | j => .error (.wrongType j ("struct " ++ title))

end Record

end FlowRuns
