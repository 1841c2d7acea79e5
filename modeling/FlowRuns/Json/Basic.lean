import FlowRuns.Binary64.Basic

/-!
# JSON values

* `Json` — values as they are exchanged with the orchestrator and stored beside a dataflow. A
  number is an integer or a binary floating-point number, and the two are told apart. An object
  is the list of its entries in ascending order of their keys.
* `Json.ofEntries` — the object with given entries; of two entries with one key the later counts.
-/

namespace FlowRuns

/-- A JSON value. -/
inductive Json where
  /-- `null` -/
  | null
  /-- `true` or `false` -/
  | bool (value : Bool)
  /-- a number written without point and exponent -/
  | int (value : Int)
  /-- any other number -/
  | float (value : Binary64)
  /-- a text -/
  | string (value : String)
  /-- a sequence -/
  | array (elements : List Json)
  /-- the entries by ascending key -/
  | object (entries : List (String × Json))
  deriving Inhabited, BEq

namespace Json

/-- Puts an entry at its place by key, in place of an entry with the same key. -/
def insertEntry (key : String) (value : Json) : List (String × Json) → List (String × Json)
  | [] => [(key, value)]
  | (k, v) :: rest =>
    if key < k then (key, value) :: (k, v) :: rest
    else if key = k then (key, value) :: rest
    else (k, v) :: insertEntry key value rest

/-- The object with given entries, later ones replacing earlier ones of the same key. -/
def ofEntries (entries : List (String × Json)) : Json :=
  object (entries.foldl (fun sorted e => insertEntry e.1 e.2 sorted) [])

/-- The value under a key; `none` also for what is no object. -/
def get? (key : String) : Json → Option Json
  | object entries => entries.lookup key
  | _ => none

/-- The elements of a sequence; `none` for anything else. -/
def elements? : Json → Option (List Json)
  | array elements => some elements
  | _ => none

/-- A text, or `null` for none. -/
def ofOption : Option String → Json
  | some s => string s
  | none => null

end Json

end FlowRuns
