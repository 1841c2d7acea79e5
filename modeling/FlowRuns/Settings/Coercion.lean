import FlowRuns.Settings.Basic
import FlowRuns.Text.Case
import FlowRuns.Text.Numeral

/-!
# Coercion of settings

Sources of settings differ in the types that they can write. So a value is taken for a setting of
another type where it can be understood:

* a truth value, a floating-point number (rounded, a half away from zero) or a text for a number;
* a number for a truth value: true unless it is zero;
* the words `true`, `on`, `yes` and `false`, `off`, `no`, in any letter case, for a truth value and
  for the numbers 1 and 0;
* any single value for a text;
* the name of a state in any letter case.

Nothing is coerced to or from a sequence, and `null` stands for nothing but a setting that may be
missing. A section that is written as a sequence may go on after its last setting; the rest is ignored.
-/

namespace FlowRuns.Coercion

/-- What is reported of a value that cannot be understood. -/
def misfit {α : Type} (found : Json) (expected : String) : Except Mismatch α :=
  .error (.wrongType found expected)

/-- The words for true. -/
def trueWords : List String := ["true", "on", "yes"]

/-- The words for false. -/
def falseWords : List String := ["false", "off", "no"]

/-- The truth value that a word stands for. -/
def wordValue? (s : String) : Option Bool :=
  let word := Text.lowercase s
  if trueWords.contains word then some true
  else if falseWords.contains word then some false
  else none

/-- A number that is not negative. -/
def natural : Decoder Nat
  | .bool b => .ok (if b then 1 else 0)
  | .int i => if 0 ≤ i then .ok i.toNat else misfit (.int i) "u64"
  | .float x => .ok x.roundUInt64.toNat
  | .string s =>
    match wordValue? s, Text.uint64Of? s with
    | some b, _ => .ok (if b then 1 else 0)
    | none, some i => .ok i.toNat
    | none, none => misfit (.string s) "u64"
  | j => misfit j "u64"

/-- A number of 64 bits. -/
def uint64 : Decoder UInt64 := fun j => (natural j).map UInt64.ofNat

/-- A number of 32 bits. -/
def uint32 : Decoder UInt32 := fun j => do
  let n ← natural j
  if n < UInt32.size then return UInt32.ofNat n else misfit j "u32"

/-- A truth value. -/
def bool : Decoder Bool
  | .bool b => .ok b
  | .int i => .ok (i != 0)
  | .float x => .ok (!x.numEq .zero)
  | .string s =>
    match wordValue? s with
    | some b => .ok b
    | none => if s = "1" then .ok true else if s = "0" then .ok false else misfit (.string s) "bool"
  | j => misfit j "bool"

/-- A text. -/
def text : Decoder String
  | .bool b => .ok (if b then "true" else "false")
  | .int i => .ok (toString i)
  | .float x => .ok (DecimalStyle.positional.text x)
  | .string s => .ok s
  | j => misfit j "a string"

/-- The state with a name, in any letter case. -/
def statusNamed (s : String) : Except Mismatch Status :=
  match Status.all.find? fun st => Text.lowercase st.name = Text.lowercase s with
  | some st => .ok st
  | none => .error (.unknownName s (Status.all.map Status.name))

/-- A state: its name, or an object whose only key is its name. -/
def status : Decoder Status
  | .string s => statusNamed s
  | .object [(k, _)] => statusNamed k
  | j => misfit j "string or map"

end FlowRuns.Coercion

namespace FlowRuns

/-- Values are coerced to the type of their setting. -/
def Reading.coercing : Reading :=
  ⟨Coercion.text, Coercion.bool, Coercion.uint32, Coercion.uint64, Coercion.status, true⟩

end FlowRuns
