import FlowRuns.Format.Toml.Scalar

/-!
# TOML documents

A document is a sequence of statements, a line each: a pair of a key and a value, the header of a
table, or the header of a further element of a sequence of tables. Pairs belong to the table whose
header came last.

* `Toml.Statement`, `Toml.statements?` — the lines of a document.
* `Toml.Node` — the tree that statements build. Nothing may be defined twice: a table has one
  header, which may come after those of its inner tables, and a key with points reaches only into
  tables that have none.
* `Toml.ofText?` — the value of a document.
-/

namespace FlowRuns.Toml

/-! ## Keys -/

/-- Whether a character may stand in a key without quotes. -/
def isBareChar (c : Char) : Bool := c.isAlphanum || c = '_' || c = '-'

/-- One part of a key, and what follows. -/
def keyPart? (s : List Char) : Option (String × List Char) :=
  match s with
  | '"' :: _ => quotedLine? s
  | '\'' :: _ => quotedLine? s
  | s =>
    let name := s.takeWhile isBareChar
    if name.isEmpty then none else some (String.ofList name, s.drop name.length)

/-- The text from the first character that is no blank. -/
def skip (s : List Char) : List Char := s.dropWhile isBlank

/-- The most parts of a key, and the most sequences and tables within one another. -/
def deepest : Nat := 79

/-- A key with points between its parts, of which there are `room` at most, and what follows it and
the blanks after it. -/
def keyWithin? : (room : Nat) → List Char → Option (List String × List Char)
  | 0, _ => none
  | room + 1, s => do
    let (part, rest) ← keyPart? (skip s)
    match skip rest with
    | '.' :: rest =>
      let (parts, rest) ← keyWithin? room rest
      some (part :: parts, rest)
    | rest => some ([part], rest)

/-- A key, and what follows it and the blanks after it. -/
def key? (s : List Char) : Option (List String × List Char) := keyWithin? deepest s

/-! ## Nodes -/

/-- How a table came about. -/
inductive TableKind where
  /-- by a header of its own -/
  | headed
  /-- by the header of an inner table -/
  | implied
  /-- by a key with points -/
  | dotted
  deriving DecidableEq, Inhabited

/-- What stands under a key. -/
inductive Node where
  /-- a value -/
  | value (value : Json)
  /-- a table -/
  | table (kind : TableKind) (entries : List (String × Node))
  /-- a sequence of tables, the last one first -/
  | tables (elements : List (List (String × Node)))
  deriving Inhabited

/-- The entries of a table. -/
abbrev Entries := List (String × Node)

/-- Puts a node under a key, in place of the one there. -/
def Entries.put (key : String) (node : Node) : Entries → Entries
  | [] => [(key, node)]
  | (k, n) :: rest => if k = key then (key, node) :: rest else (k, n) :: Entries.put key node rest

/-- Adds a value under a key with points. -/
def Entries.addPair : List String → Json → Entries → Option Entries
  | [], _, _ => none
  | [k], v, es => if (es.lookup k).isSome then none else some (es ++ [(k, .value v)])
  | k :: path, v, es =>
    match es.lookup k with
    | none => (Entries.addPair path v []).map fun inner => es ++ [(k, .table .dotted inner)]
    | some (.table kind inner) =>
      if kind = .headed then none
      else (Entries.addPair path v inner).map fun inner => es.put k (.table kind inner)
    | some _ => none

/-- Goes down a way and changes the table at its end. Tables that are missing on the way are made;
of a sequence of tables the last one is meant. -/
def Entries.below (change : Entries → Option Entries) : List String → Entries → Option Entries
  | [], es => change es
  | k :: path, es =>
    match es.lookup k with
    | none => (Entries.below change path []).map fun inner => es ++ [(k, .table .implied inner)]
    | some (.table kind inner) =>
      (Entries.below change path inner).map fun inner => es.put k (.table kind inner)
    | some (.tables (last :: before)) =>
      (Entries.below change path last).map fun last => es.put k (.tables (last :: before))
    | some _ => none

/-- Adds a table under a key, or gives one that is there its header. -/
def Entries.openTable (key : String) (es : Entries) : Option Entries :=
  match es.lookup key with
  | none => some (es ++ [(key, .table .headed [])])
  | some (.table .implied inner) => some (es.put key (.table .headed inner))
  | some _ => none

/-- Adds an element to the sequence of tables under a key. -/
def Entries.openElement (key : String) (es : Entries) : Option Entries :=
  match es.lookup key with
  | none => some (es ++ [(key, .tables [[]])])
  | some (.tables elements) => some (es.put key (.tables ([] :: elements)))
  | some _ => none

mutual

/-- The value of a node. -/
def Node.toJson : Node → Json
  | .value v => v
  | .table _ es => .ofEntries (entriesJson es)
  | .tables elements => .array (elementsJson elements).reverse

/-- The values of the entries of a table. -/
def entriesJson : List (String × Node) → List (String × Json)
  | [] => []
  | (k, n) :: rest => (k, n.toJson) :: entriesJson rest

/-- The values of the elements of a sequence of tables. -/
def elementsJson : List (List (String × Node)) → List Json
  | [] => []
  | es :: rest => .ofEntries (entriesJson es) :: elementsJson rest

end

/-! ## Values -/

/-- What follows a comment, if one comes next. -/
def comment? (s : List Char) : Option (List Char) :=
  match s with
  | '#' :: r =>
    let rest := r.dropWhile isPrintable
    match rest with
    | [] => some []
    | rest => if (lineEnd? rest).isSome then some rest else none
  | s => some s

/-- What follows blanks, line ends and comments. -/
def skipAll? : (fuel : Nat) → List Char → Option (List Char)
  | 0, s => some s
  | fuel + 1, s =>
    match skip s with
    | '#' :: r => comment? ('#' :: r) >>= skipAll? fuel
    | s =>
      match lineEnd? s with
      | some r => skipAll? fuel r
      | none => some s

/-- What follows blanks, line ends and comments. -/
def skipAll (s : List Char) : Option (List Char) := skipAll? s.length s

mutual

/-- A value at the beginning of a text; `fuel` is at least the length, and `depth` more sequences
and tables may be opened. -/
def value? : (fuel depth : Nat) → List Char → Option (Json × List Char)
  | 0, _, _ => none
  | fuel + 1, depth, s =>
    match s, depth with
    | '"' :: _, _ => (quoted? s).map fun (t, r) => (.string t, r)
    | '\'' :: _, _ => (quoted? s).map fun (t, r) => (.string t, r)
    | '[' :: _, 0 => none
    | '[' :: r, depth + 1 => (elements? fuel depth r).map fun (es, r) => (.array es, r)
    | '\x7b' :: _, 0 => none
    | '\x7b' :: r, depth + 1 =>
      match skip r with
      | '\x7d' :: r => some (.object [], r)
      | r => (pairs? fuel depth [] r).map fun (es, r) => (.ofEntries (entriesJson es), r)
    | s, _ =>
      let (word, rest) := wordOf s
      (word? word).map fun v => (v, rest)

/-- The elements of a sequence up to its closing bracket; a comma may come before that. -/
def elements? : (fuel depth : Nat) → List Char → Option (List Json × List Char)
  | 0, _, _ => none
  | fuel + 1, depth, s => do
    match ← skipAll s with
    | ']' :: r => some ([], r)
    | s =>
      let (v, r) ← value? fuel depth s
      match ← skipAll r with
      | ']' :: r => some ([v], r)
      | ',' :: r =>
        let (vs, r) ← elements? fuel depth r
        some (v :: vs, r)
      | _ => none

/-- The pairs of a table within a line, up to its closing brace, added to those before. -/
def pairs? : (fuel depth : Nat) → Entries → List Char → Option (Entries × List Char)
  | 0, _, _, _ => none
  | fuel + 1, depth, es, s => do
    let (path, r) ← key? s
    let r ← after? '=' r
    let (v, r) ← value? fuel depth (skip r)
    let es ← es.addPair path v
    match skip r with
    | '\x7d' :: r => some (es, r)
    | ',' :: r => pairs? fuel depth es r
    | _ => none

end

/-! ## Statements -/

/-- One line of a document. -/
inductive Statement where
  /-- a key and a value -/
  | pair (path : List String) (value : Json)
  /-- the header of a table -/
  | table (path : List String)
  /-- the header of a further element of a sequence of tables -/
  | element (path : List String)
  deriving Inhabited

/-- The statement at the beginning of a text, and what follows. -/
def statement? (s : List Char) : Option (Statement × List Char) :=
  match s with
  | '[' :: '[' :: r => do
    let (path, r) ← key? r
    some (.element path, ← after? ']' (← after? ']' r))
  | '[' :: r => do
    let (path, r) ← key? r
    some (.table path, ← after? ']' r)
  | s => do
    let (path, r) ← key? s
    let r ← after? '=' r
    let (v, r) ← value? r.length deepest (skip r)
    some (.pair path v, r)

/-- What follows the rest of a line on which nothing but a comment may stand. -/
def endOfLine? (s : List Char) : Option (List Char) := do
  match ← comment? (skip s) with
  | [] => some []
  | s => lineEnd? s

/-- The statements of a document; `fuel` is at least its length. -/
def statements? : (fuel : Nat) → List Char → Option (List Statement)
  | _, [] => some []
  | 0, _ => none
  | fuel + 1, s =>
    match skip s with
    | [] => some []
    | c :: r =>
      if c = '#' || (lineEnd? (c :: r)).isSome then endOfLine? (c :: r) >>= statements? fuel
      else do
        let (first, r) ← statement? (c :: r)
        let rest ← endOfLine? r >>= statements? fuel
        some (first :: rest)

/-- What statements have built: the outermost table, and the way to the one whose header came
last. -/
structure Draft where
  /-- the outermost table -/
  root : Entries
  /-- the way to the current one -/
  current : List String

/-- One more statement. -/
def Draft.add (d : Draft) : Statement → Option Draft
  | .pair path v => do some { d with root := ← d.root.below (·.addPair path v) d.current }
  | .table path => do
    some ⟨← d.root.below (·.openTable (path.getLastD "")) path.dropLast, path⟩
  | .element path => do
    some ⟨← d.root.below (·.openElement (path.getLastD "")) path.dropLast, path⟩

/-- A text without the mark that may stand at the beginning of a text in UTF-8. -/
def withoutMark : List Char → List Char
  | '\uFEFF' :: rest => rest
  | s => s

/-- The value of a document, an object. -/
def ofText? (s : String) : Option Json := do
  let statements ← statements? (s.length + 1) (withoutMark s.toList)
  let draft ← statements.foldlM Draft.add ⟨[], []⟩
  some (Node.toJson (.table .headed draft.root))

end FlowRuns.Toml
