import FlowRuns.Format.Yaml.Token
import FlowRuns.Text.Numeral
import FlowRuns.Text.Percent

/-!
# Nodes of YAML

A document is a node: a single value, a sequence or a mapping, whose keys may be any nodes.

* `Yaml.Node` — nodes.
* `Node.ofWord` — the value of a plain text: nothing, a truth value, a number or a text.
* `Node.ofTokens?` — the node of the one document that tokens make up.
-/

namespace FlowRuns.Yaml

/-- A node. -/
inductive Node where
  /-- nothing -/
  | null
  /-- a value that its type does not fit, or a mention of a node within that node -/
  | bad
  /-- true or false -/
  | bool (value : Bool)
  /-- an integer of 64 bits -/
  | int (value : Int)
  /-- any other number, as it is written -/
  | real (text : String)
  /-- a text -/
  | string (value : String)
  /-- elements -/
  | sequence (elements : List Node)
  /-- keys and values, in order, no key twice -/
  | mapping (entries : List (Node × Node))
  deriving Inhabited, BEq

namespace Node

/-! ## Single values -/

/-- The integer of 64 bits that a sign and digits in a base write. -/
def intIn? (base : Nat) (s : List Char) : Option Int := do
  let (negative, digits) := Text.cutSign s
  if digits.isEmpty then none
  else
    let n ← digits.foldlM (fun n c =>
      ((Text.hexValue? c).filter (· < base)).map (base * n + ·)) 0
    let i : Int := if negative then -(n : Int) else n
    if Int64.minValue.toInt ≤ i ∧ i ≤ Int64.maxValue.toInt then some i else none

/-- The integer after a mark: `0x` for base sixteen, `0o` for base eight, or a plus sign. Another
sign may follow the mark. -/
def markedInt? (s : List Char) : Option Int :=
  match s with
  | '0' :: 'x' :: digits => intIn? 16 digits
  | '0' :: 'o' :: digits => intIn? 8 digits
  | '+' :: digits => Text.int64Of? (String.ofList digits)
  | _ => none

/-- The words for infinities and for what is no number. -/
def specialWords : List String :=
  [".inf", ".Inf", ".INF", "+.inf", "+.Inf", "+.INF", "-.inf", "-.Inf", "-.INF", ".nan", ".NaN",
   ".NAN"]

/-- Whether a text writes a floating-point number. Apart from the special words it has a digit. -/
def isReal (s : String) : Bool :=
  specialWords.contains s || (s.toList.any Char.isDigit && (Text.binary64Of? s).isSome)

/-- The value of a plain text. -/
def ofWord (s : String) : Node :=
  match (markedInt? s.toList).or (Text.int64Of? s) with
  | some i => int i
  | none =>
    if s = "~" || s = "null" then null
    else if s = "true" then bool true
    else if s = "false" then bool false
    else if isReal s then real s
    else string s

/-- How the types begin that YAML itself defines. -/
def coreHandle : String := "tag:yaml.org,2002:"

/-- The value of a plain text with one of the types that YAML itself defines. -/
def ofTyped (type s : String) : Node :=
  match type with
  | "bool" => if s = "true" then bool true else if s = "false" then bool false else bad
  | "int" =>
    match Text.int64Of? s with
    | some i => int i
    | none => bad
  | "float" => if isReal s then real s else bad
  | "null" => if s = "~" || s = "null" then null else bad
  | _ => string s

/-- The value of a text, written plainly or not, with a type or without one. A type that YAML does
not define makes it a text. -/
def ofScalar (plain : Bool) (s : String) : Option (String × String) → Node
  | some (handle, suffix) =>
    if plain && handle = coreHandle then ofTyped suffix s else string s
  | none => if plain then ofWord s else string s

/-! ## Mappings -/

/-- Whether a node takes the place of no key. -/
def isBad : Node → Bool
  | bad => true
  | _ => false

/-- Adds keys and values in turns to entries, `key` being the key that waits for its value, or `bad`
if none does. No key may come twice. -/
def addEntries? : (key : Node) → (entries : List (Node × Node)) → List Node →
    Option (List (Node × Node))
  | _, entries, [] => some entries
  | key, entries, n :: rest =>
    if key.isBad then addEntries? n entries rest
    else if entries.any fun e => e.1 == key then none
    else addEntries? bad (entries ++ [(key, n)]) rest

/-- The mapping of keys and values in turns. -/
def mapping? (parts : List Node) : Option Node := (addEntries? bad [] parts).map mapping

/-! ## Documents -/

/-- What is known while nodes are read. -/
structure Reader where
  /-- the tokens that are left -/
  tokens : List Token
  /-- what handles stand for -/
  handles : List (String × String)
  /-- the numbers of the nodes with names, the last one first -/
  names : List (String × Nat)
  /-- the nodes with numbers that are complete -/
  nodes : List (Nat × Node)

/-- Reading that may fail. -/
abbrev Reads := StateT Reader Option

namespace Reads

/-- The next token. -/
def peek? : Reads (Option Token) := do return (← get).tokens.head?

/-- Past the next token. -/
def skip : Reads Unit := modify fun r => { r with tokens := r.tokens.drop 1 }

/-- Past the next token if it is the given one; whether it was. -/
def skipIf (t : Token) : Reads Bool := do
  if (← peek?) = some t then
    skip
    return true
  else return false

/-- Whether the next token is among the given ones. -/
def isAt (ts : List Token) : Reads Bool := do return (← peek?).any ts.contains

/-- Past the next token, which has to be the given one. -/
def expect (t : Token) : Reads Unit := do
  if !(← skipIf t) then failure

/-- Gives a name to the node that follows: its number. A name may be given again. -/
def name (s : String) : Reads Nat := do
  let n := (← get).names.length + 1
  modify fun r => { r with names := (s, n) :: r.names }
  return n

/-- The node with a name, which has to be known. -/
def named (s : String) : Reads Node := do
  let r ← get
  match r.names.lookup s with
  | some n => return (r.nodes.lookup n).getD bad
  | none => failure

/-- What a type is called in full. A handle between exclamation marks has to be known. -/
def resolve (handle suffix : String) : Reads (String × String) := do
  match (← get).handles.lookup handle with
  | some full => return (full, suffix)
  | none =>
    if handle = "!!" then return (coreHandle, suffix)
    else if 2 ≤ handle.length && handle.endsWith "!" then failure
    else return (handle, suffix)

/-- The type that comes next, if one does. -/
def type? : Reads (Option (String × String)) := do
  match ← peek? with
  | some (.tag handle suffix) =>
    skip
    return some (← resolve handle suffix)
  | _ => return none

/-- The name that comes next, if one does: the number of the node. -/
def name? : Reads (Option Nat) := do
  match ← peek? with
  | some (.anchor s) =>
    skip
    return some (← name s)
  | _ => return none

/-- The name and the type of the node that follows, in either order. -/
def properties : Reads (Option Nat × Option (String × String)) := do
  match ← name? with
  | some n => return (some n, ← type?)
  | none =>
    let type ← type?
    if type.isSome then return (← name?, type) else return (none, none)

/-- Keeps a complete node that has a number. -/
def keep (number : Option Nat) (n : Node) : Reads Node := do
  match number with
  | some k => modify fun r => { r with nodes := (k, n) :: r.nodes }
  | none => pure ()
  return n

mutual

/-- A node. Blocks may stand only outside brackets; a sequence that is not indented, only in a
mapping. `fuel` bounds how far reading goes. -/
def node : (fuel : Nat) → (block indentless : Bool) → Reads Node
  | 0, _, _ => failure
  | fuel + 1, block, indentless => do
    match ← peek? with
    | some (.alias s) =>
      skip
      named s
    | _ =>
      let (number, type) ← properties
      let content : Option (Reads Node) := match ← peek? with
        | some (.scalar plain s) => some (do skip; return ofScalar plain s type)
        | some .flowSequenceStart => some (do skip; return sequence (← flowElements fuel true))
        | some .flowMappingStart => some (do skip; ofParts (← flowParts fuel true))
        | some .blockSequenceStart =>
          if block then some (do skip; return sequence (← blockElements fuel)) else none
        | some .blockMappingStart =>
          if block then some (do skip; ofParts (← blockParts fuel)) else none
        | some .blockEntry =>
          if indentless then some (do return sequence (← indentlessElements fuel)) else none
        | _ => none
      match content with
      | some m => keep number (← m)
      | none =>
        if number.isSome || type.isSome then keep number (ofScalar true "" type) else failure

/-- The mapping of keys and values in turns. -/
def ofParts (parts : List Node) : Reads Node :=
  match mapping? parts with
  | some n => return n
  | none => failure

/-- A node, or nothing if one of the given tokens comes next. -/
def nodeUnless : (fuel : Nat) → (ends : List Token) → (block indentless : Bool) → Reads Node
  | 0, _, _, _ => failure
  | fuel + 1, ends, block, indentless => do
    if ← isAt ends then return null else node fuel block indentless

/-- The elements of a sequence by indentation. -/
def blockElements : (fuel : Nat) → Reads (List Node)
  | 0 => failure
  | fuel + 1 => do
    if ← skipIf .blockEnd then return []
    else
      expect .blockEntry
      let n ← nodeUnless fuel [.blockEntry, .blockEnd] true false
      return n :: (← blockElements fuel)

/-- The elements of a sequence that is not indented. -/
def indentlessElements : (fuel : Nat) → Reads (List Node)
  | 0 => failure
  | fuel + 1 => do
    if ← skipIf .blockEntry then
      let n ← nodeUnless fuel [.blockEntry, .key, .value, .blockEnd] true false
      return n :: (← indentlessElements fuel)
    else return []

/-- The keys and values of a mapping by indentation, in turns. -/
def blockParts : (fuel : Nat) → Reads (List Node)
  | 0 => failure
  | fuel + 1 => do
    if ← skipIf .blockEnd then return []
    else
      let k ←
        if ← skipIf .key then nodeUnless fuel [.key, .value, .blockEnd] true true
        else if ← isAt [.value] then pure null
        else failure
      let v ←
        if ← skipIf .value then nodeUnless fuel [.key, .value, .blockEnd] true true
        else pure null
      return k :: v :: (← blockParts fuel)

/-- The elements of a sequence in brackets. -/
def flowElements : (fuel : Nat) → (first : Bool) → Reads (List Node)
  | 0, _ => failure
  | fuel + 1, first => do
    if ← skipIf .flowSequenceEnd then return []
    else
      if !first then expect .flowEntry
      if ← skipIf .flowSequenceEnd then return []
      else
        let n ← if ← skipIf .key then flowPair fuel else node fuel false false
        return n :: (← flowElements fuel false)

/-- A mapping of one pair in a sequence in brackets; the mark of its key is already read. -/
def flowPair : (fuel : Nat) → Reads Node
  | 0 => failure
  | fuel + 1 => do
    let k ←
      if ← isAt [.value, .flowEntry, .flowSequenceEnd] then
        skip
        pure null
      else node fuel false false
    let v ←
      if ← skipIf .value then nodeUnless fuel [.flowEntry, .flowSequenceEnd] false false
      else pure null
    ofParts [k, v]

/-- The keys and values of a mapping in braces, in turns. -/
def flowParts : (fuel : Nat) → (first : Bool) → Reads (List Node)
  | 0, _ => failure
  | fuel + 1, first => do
    if ← skipIf .flowMappingEnd then return []
    else
      if !first then expect .flowEntry
      if ← skipIf .flowMappingEnd then return []
      else
        let (k, v) ←
          if ← skipIf .key then
            let k ← nodeUnless fuel [.value, .flowEntry, .flowMappingEnd] false false
            pure (k, ← flowValue fuel)
          else if ← isAt [.value] then pure (null, ← flowValue fuel)
          else pure (← node fuel false false, null)
        return k :: v :: (← flowParts fuel false)

/-- The value of a key in a mapping in braces. -/
def flowValue : (fuel : Nat) → Reads Node
  | 0 => failure
  | fuel + 1 => do
    if ← skipIf .value then nodeUnless fuel [.flowEntry, .flowMappingEnd] false false
    else return null

end

/-- Past the marks that documents end. -/
def skipEnds : Reads Unit :=
  modify fun r => { r with tokens := r.tokens.dropWhile (· = .documentEnd) }

/-- The lines after percent signs before a document, given whether the version was told. Each of
them takes back what handles stood for. -/
def directives : (fuel : Nat) → (versioned : Bool) → Reads Unit
  | 0, _ => failure
  | fuel + 1, versioned => do
    match ← peek? with
    | some .versionDirective =>
      if versioned then failure
      modify fun r => { r with tokens := r.tokens.drop 1, handles := [] }
      directives fuel true
    | some (.tagDirective handle leading) =>
      modify fun r => { r with tokens := r.tokens.drop 1, handles := [(handle, leading)] }
      directives fuel versioned
    | _ => return ()

/-- Whether a token belongs to the beginning of a document with a mark. -/
def opensDocument : Token → Bool
  | .versionDirective => true
  | .tagDirective .. => true
  | .documentStart => true
  | _ => false

/-- Whether a document without content ends before a token. -/
def closesDocument (t : Token) : Bool := opensDocument t || t = .documentEnd

/-- The one document; an empty mapping if there is none. -/
def document (fuel : Nat) : Reads Node := do
  skipEnds
  let content ← match ← peek? with
    | none => return mapping []
    | some t =>
      if opensDocument t then
        directives fuel false
        expect .documentStart
        match ← peek? with
        | none => pure null
        | some t => if closesDocument t then pure null else node fuel true false
      else node fuel true false
  skipEnds
  if (← peek?).isSome then failure
  return content

end Reads

/-- The node of the one document that tokens make up; an empty mapping if there is none. -/
def ofTokens? (tokens : List Token) : Option Node :=
  ((Reads.document (4 * tokens.length + 4)).run ⟨tokens, [], [], []⟩).map (·.1)

end Node

end FlowRuns.Yaml
