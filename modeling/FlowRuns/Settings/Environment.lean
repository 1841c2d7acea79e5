import FlowRuns.Settings.Layer
import FlowRuns.Text.Numeral

/-!
# Settings in environment variables

* `environmentLayer` — the variables `DATAFLOW__SECTION__KEY`. Two underscores separate the parts of
  a place; letter case does not matter. A value is read as a truth value, an integer or a
  floating-point number if it is one, and is a text otherwise.
* `legacyLayer` — two older variables, which hold texts and count more than anything else.
* `environmentName` — where the program runs.
-/

namespace FlowRuns

/-- Environment variables: names and values. -/
abbrev Variables := List (String × String)

namespace Variables

/-- How the names of variables with settings begin, in lower case. -/
def mark : List Char := "dataflow__".toList

/-- A text with each pair of underscores replaced by a point, from left to right. -/
def separated : List Char → List Char
  | '_' :: '_' :: rest => '.' :: separated rest
  | c :: rest => c :: separated rest
  | [] => []

/-- The place that a name stands for, if it stands for a setting. -/
def place? (name : String) : Option Place :=
  let lower := (Text.lowercase name).toList
  if mark.isPrefixOf lower then
    some (Place.ofText (String.ofList (separated (lower.drop mark.length))))
  else none

/-- The truth value that a word stands for, in any letter case. -/
def boolOf? (s : String) : Option Bool :=
  let word := Text.lowercase s
  if word = "true" then some true else if word = "false" then some false else none

/-- A value as it is understood. -/
def value (s : String) : Json :=
  match boolOf? s, Text.int64Of? s, Text.binary64Of? s with
  | some b, _, _ => .bool b
  | none, some i, _ => .int i
  | none, none, some x => .float x
  | none, none, none => .string s

/-- The settings in variables. -/
def environmentLayer (vars : Variables) : Layer :=
  vars.filterMap fun v => (place? v.1).map fun p => (p, value v.2)

/-- The older variables and what they set. -/
def legacyPlaces : List (String × Place) :=
  [("PREFECT_PROXY_API_URL", ⟨"proxy", [.child "base_url"]⟩),
   ("DATABASE_URL", ⟨"database", [.child "url"]⟩)]

/-- The settings in the older variables. -/
def legacyLayer (vars : Variables) : Layer :=
  legacyPlaces.filterMap fun p => (vars.lookup p.1).map fun s => (p.2, .string s)

/-- Where the program runs: what one of two variables says, in lower case, or else
`development`. -/
def environmentName (vars : Variables) : String :=
  Text.lowercase
    (((vars.lookup "DATAFLOW_ENV").or (vars.lookup "APP_ENV")).getD "development")

end Variables

end FlowRuns
