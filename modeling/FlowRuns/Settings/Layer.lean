import FlowRuns.Json.Basic
import FlowRuns.Text.Case

/-!
# Layers of settings

A layer is a sequence of values at places; layers are laid over one another in order. What a layer
says about a place replaces what was there, except that an object is merged with what was there key
by key, so that a layer never takes back what it does not mention. Keys are told apart without
regard to letter case.

* `Place` — where a value goes: `a.b[2].c`.
* `Place.ofText?` — reads a place; a text that is none is a single key.
* `putAt?`, `mergeEntry` — put a value into another.
* `Layer.laidOn?` — lays a layer over what is there.
-/

namespace FlowRuns

/-- One step down into a value. -/
inductive PlaceStep where
  /-- to an entry of an object -/
  | child (key : String)
  /-- to an element of a sequence, counted from its end if negative -/
  | index (i : Int)
  deriving DecidableEq, Inhabited

/-- Where a value goes: first to an entry, then further down. -/
structure Place where
  /-- the entry of the outermost object -/
  key : String
  /-- the way from there -/
  steps : List PlaceStep
  deriving DecidableEq, Inhabited

namespace Place

/-! ## Reading -/

/-- The characters of a key in a place. -/
def isKeyChar (c : Char) : Bool := c.isAlphanum || c = ' ' || c = '_' || c = '-'

/-- A key, and what follows it. -/
def key? (s : List Char) : Option (String × List Char) :=
  let name := s.takeWhile isKeyChar
  if name.isEmpty then none else some (String.ofList name, s.drop name.length)

/-- The blanks that may stand beside an index. -/
def isIndexBlank (c : Char) : Bool := c = ' ' || c = '\t' || c = '\n' || c = '\r'

/-- An index between brackets; the opening one is already read. -/
def index? (s : List Char) : Option (Int × List Char) :=
  let s := s.dropWhile isIndexBlank
  let (negative, s) := match s with
    | '-' :: rest => (true, rest)
    | s => (false, s)
  let digits := s.takeWhile Char.isDigit
  match (s.drop digits.length).dropWhile isIndexBlank with
  | ']' :: rest =>
    if digits.isEmpty then none
    else
      let n : Nat := digits.foldl (fun n c => 10 * n + (c.toNat - 48)) 0
      let i : Int := if negative then -(n : Int) else n
      if Int64.minValue.toInt ≤ i ∧ i ≤ Int64.maxValue.toInt then some (i, rest) else none
  | _ => none

/-- The steps that a text writes; `fuel` is at least its length. -/
def steps? : (fuel : Nat) → List Char → Option (List PlaceStep)
  | _, [] => some []
  | 0, _ => none
  | fuel + 1, '.' :: s => do
    let (key, rest) ← key? s
    return .child key :: (← steps? fuel rest)
  | fuel + 1, '[' :: s => do
    let (i, rest) ← index? s
    return .index i :: (← steps? fuel rest)
  | _, _ => none

/-- The place that a text writes. -/
def ofText? (s : String) : Option Place := do
  let (key, rest) ← key? s.toList
  return ⟨key, ← steps? rest.length rest⟩

/-- The place that a text writes, or else the entry of that name. -/
def ofText (s : String) : Place := (ofText? s).getD ⟨s, []⟩

end Place

namespace Layer

/-! ## Putting values -/

/-- The entries of an object; none of anything else. -/
def entriesOf : Json → List (String × Json)
  | .object es => es
  | _ => []

/-- The elements of a sequence; none of anything else. -/
def elementsOf : Json → List Json
  | .array es => es
  | _ => []

mutual

/-- Puts a value under a key; an object is merged into what is there. -/
def mergeEntry (key : String) (value : Json) (target : Json) : Json :=
  let entries := entriesOf target
  let key := Text.lowercase key
  match value with
  | .object es =>
    let below := (entries.lookup key).getD (.object [])
    .object (Json.insertEntry key (mergeEntries es below) entries)
  | v => .object (Json.insertEntry key v entries)

/-- Merges entries into what is there. -/
def mergeEntries (es : List (String × Json)) (target : Json) : Json :=
  match es with
  | [] => target
  | (k, v) :: rest => mergeEntries rest (mergeEntry k v target)

end

/-- How many elements a sequence may get. The library that lays the layers has no such limit: it fills a
sequence up to whatever place a key names, and the program ends if there is no memory for that. How much
there is is no matter of the settings, so this number stands for it. -/
def mostElements : Nat := 0x1000000

/-- The place of an element in a sequence of `size` elements. There is none before the first, and
none beyond what a sequence may hold. -/
def position? (i : Int) (size : Nat) : Option Nat :=
  if 0 ≤ i then (if i.toNat < mostElements then some i.toNat else none)
  else if i.natAbs ≤ size then some (size - i.natAbs) else none

/-- Elements with `null`s after them until there are `n + 1`. -/
def padded (es : List Json) (n : Nat) : List Json := es ++ List.replicate (n + 1 - es.length) .null

/-- Puts a value at the end of a way into another. Whatever stands in the way is replaced. There is
no result if an element on the way has no place. -/
def putAt? : List PlaceStep → Json → Json → Option Json
  | [], value, _ => some value
  | [.child k], value, target => some (mergeEntry k value target)
  | .child k :: steps, value, target => do
    let entries := entriesOf target
    let key := Text.lowercase k
    let below ← putAt? steps value ((entries.lookup key).getD .null)
    return .object (Json.insertEntry key below entries)
  | .index i :: steps, value, target => do
    let es := elementsOf target
    let n ← position? i es.length
    let es := padded es n
    return .array (es.set n (← putAt? steps value (es.getD n .null)))

/-- Puts a value at a place. -/
def put? (target : Json) (entry : Place × Json) : Option Json :=
  putAt? (.child entry.1.key :: entry.1.steps) entry.2 target

end Layer

/-- Values at places. -/
abbrev Layer := List (Place × Json)

namespace Layer

/-- Lays a layer over what is there. There is no result if one of its values has no place. -/
def laidOn? (layer : Layer) (below : Json) : Option Json := layer.foldlM put? below

/-- The layer that the entries of an object make, each key read as a place. -/
def ofEntries (entries : List (String × Json)) : Layer :=
  entries.map fun e => (Place.ofText e.1, e.2)

/-- What layers make together, the first one lowest. -/
def stack? (layers : List Layer) : Option Json :=
  layers.foldlM (fun below l => l.laidOn? below) (.object [])

end Layer

end FlowRuns
