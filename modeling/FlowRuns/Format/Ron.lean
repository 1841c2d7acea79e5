import FlowRuns.Json.Basic
import FlowRuns.Text.Numeral
import FlowRuns.Text.Percent

/-!
# RON documents

Records `(name: value)` and mappings `{key: value}`, sequences `[value]` and tuples `(value)`, with
a name before a record or a tuple or without one, `Some(value)` and `None`, numbers, truth values,
characters and texts, and comments, which may stand within one another. A name alone, and `()`, is
nothing, as is `None`. Keys of mappings are texts or characters.

* `Ron.Value` — values.
* `Ron.ofText?` — the value of a text.
-/

namespace FlowRuns.Ron

/-! ## Blanks -/

/-- Whether a character is a blank. -/
def isBlank (c : Char) : Bool := c = ' ' || c = '\t' || c = '\n' || c = '\r'

/-- What follows a comment of which `level` + 1 beginnings have no end yet; none if one does not
end. -/
def afterComment? : (level : Nat) → List Char → Option (List Char)
  | _, [] => none
  | level, '/' :: '*' :: rest => afterComment? (level + 1) rest
  | level, '*' :: '/' :: rest =>
    match level with
    | 0 => some rest
    | level + 1 => afterComment? level rest
  | level, _ :: rest => afterComment? level rest

/-- The text after blanks and comments; a stroke that begins no comment is a failure. `fuel` is
greater than the length. -/
def skipping? : (fuel : Nat) → List Char → Option (List Char)
  | 0, _ => none
  | fuel + 1, s =>
    match s.dropWhile isBlank with
    | '/' :: '/' :: rest => skipping? fuel (rest.dropWhile (· ≠ '\n'))
    | '/' :: '*' :: rest => afterComment? 0 rest >>= skipping? fuel
    | '/' :: _ => none
    | s => some s

/-- The text after blanks and comments. -/
def skip? (s : List Char) : Option (List Char) := skipping? (s.length + 1) s

/-- Past a comma and the blanks around it, if one comes next; whether it did. -/
def comma? (s : List Char) : Option (Bool × List Char) := do
  match ← skip? s with
  | ',' :: rest => return (true, ← skip? rest)
  | rest => return (false, rest)

/-! ## Names -/

/-- Whether a name may begin with a character. -/
def beginsName (c : Char) : Bool := c.isAlpha || c = '_'

/-- Whether a name may go on with a character. -/
def isNameChar (c : Char) : Bool := c.isAlphanum || c = '_'

/-- Whether a character may stand in a name after the mark `r#`. -/
def isRawChar (c : Char) : Bool := isNameChar c || c = '.' || c = '+' || c = '-'

/-- A name that a text begins with, and what follows. -/
def name? (s : List Char) : Option (List Char × List Char) :=
  match s with
  | [] => none
  | ['r'] => none
  | 'r' :: '"' :: _ => none
  | 'r' :: '#' :: rest =>
    if rest.head?.any isRawChar then some (rest.span isRawChar) else none
  | c :: rest =>
    if !beginsName c then none
    else
      let (name, after) := (c :: rest).span isNameChar
      if after.head?.any isRawChar then none else some (name, after)

/-- What follows a word that a text begins with, if the word ends there. -/
def afterWord? (word : String) (s : List Char) : Option (List Char) :=
  let cs := word.toList
  let rest := s.drop cs.length
  if cs.isPrefixOf s && !(rest.head?.any isNameChar) then some rest else none

/-! ## Numbers -/

/-- The characters of integers in any base. -/
def isIntChar (c : Char) : Bool := (Text.hexValue? c).isSome || c = '_'

/-- The characters of floating-point numbers. -/
def isFloatChar (c : Char) : Bool :=
  c.isDigit || c = 'e' || c = 'E' || c = '.' || c = '+' || c = '-' || c = '_'

/-- The base that a mark at the beginning tells, and what follows the mark. -/
def cutBase : List Char → Nat × List Char
  | '0' :: 'x' :: rest => (16, rest)
  | '0' :: 'b' :: rest => (2, rest)
  | '0' :: 'o' :: rest => (8, rest)
  | s => (10, s)

/-- An integer without its sign, and what follows. Underscores may stand between digits. -/
def natural? (s : List Char) : Option (Nat × List Char) := do
  let (base, s) := cutBase s
  let (chars, rest) := s.span isIntChar
  let digits := chars.filter (· ≠ '_')
  if chars.isEmpty || chars.head? = some '_' then none
  else
    let n ← digits.foldlM (fun n c =>
      ((Text.hexValue? c).filter (· < base)).map (base * n + ·)) 0
    some (n, rest)

/-- An integer, and what follows: 64 bits, with sign if one is written, without sign otherwise. -/
def integer? (s : List Char) : Option (Int × List Char) := do
  let signed := s.head?.any fun c => c = '+' || c = '-'
  let (negative, digits) := Text.cutSign s
  let (n, rest) ← natural? digits
  let i : Int := if negative then -(n : Int) else n
  let fits := if signed then Int64.minValue.toInt ≤ i ∧ i ≤ Int64.maxValue.toInt
    else i < UInt64.size
  if fits then some (i, rest) else none

/-- A floating-point number, and what follows. -/
def float? (s : List Char) : Option (Binary64 × List Char) :=
  let (chars, rest) := s.span isFloatChar
  (Text.binary64Of? (String.ofList chars)).map fun x => (x, rest)

/-- Whether a number is written as only a floating-point number is. -/
def looksFloat (s : List Char) : Bool :=
  let unsigned := (Text.cutSign s).2
  (unsigned.takeWhile isIntChar).length < (unsigned.takeWhile isFloatChar).length

/-- The words for numbers. -/
def specials : List (String × Binary64) :=
  [("inf", .infinite false), ("-inf", .infinite true), ("NaN", .nan)]

/-- A number, and what follows. An integer that does not fit 64 bits with sign is a floating-point
number. -/
def number? (s : List Char) : Option (Json × List Char) :=
  let float := (float? s).map fun (x, rest) => (Json.float x, rest)
  if looksFloat s then float
  else
    match integer? s with
    | some (i, rest) =>
      some (if i ≤ Int64.maxValue.toInt then .int i else .float (.ofInt i), rest)
    | none => float

/-! ## Texts and characters -/

/-- The characters that a backslash and a letter or a mark mean. -/
def escapes : List (Char × Char) :=
  [('\'', '\''), ('"', '"'), ('\\', '\\'), ('n', '\n'), ('r', '\r'), ('t', '\t'), ('0', '\x00')]

/-- A code between braces: one to six hexadecimal digits. -/
def braced? (s : List Char) : Option (Char × List Char) :=
  let digits := (s.takeWhile (· ≠ '\x7d')).take 6
  match s.drop digits.length with
  | '\x7d' :: rest => do
    let n ← digits.foldlM (fun n c => (Text.hexValue? c).map (16 * n + ·)) 0
    if digits.isEmpty || !n.isValidChar then none else some (Char.ofNat n, rest)
  | _ => none

/-- The character that is meant after a backslash, and what follows. -/
def escape? (s : List Char) : Option (Char × List Char) :=
  match s with
  | 'x' :: a :: b :: rest => do
    some (Char.ofNat (16 * (← Text.hexValue? a) + (← Text.hexValue? b)), rest)
  | 'u' :: '\x7b' :: rest => braced? rest
  | c :: rest => (escapes.lookup c).map fun x => (x, rest)
  | [] => none

/-- The characters of a text up to its closing quote, and what follows; `fuel` is greater than the
length. -/
def characters? : (fuel : Nat) → List Char → Option (List Char × List Char)
  | 0, _ => none
  | _, [] => none
  | _, '"' :: rest => some ([], rest)
  | fuel + 1, c :: rest => do
    let (c, rest) ← if c = '\\' then escape? rest else some (c, rest)
    let (cs, rest) ← characters? fuel rest
    some (c :: cs, rest)

/-- The characters up to a closing mark, and what follows it. -/
def upTo? (mark : List Char) : List Char → Option (List Char × List Char)
  | [] => none
  | c :: rest =>
    if mark.isPrefixOf (c :: rest) then some ([], (c :: rest).drop mark.length)
    else (upTo? mark rest).map fun (cs, rest) => (c :: cs, rest)

/-- A text without escapes, between quotes with equally many hashes outside them. -/
def raw? (s : List Char) : Option (List Char × List Char) :=
  let hashes := s.takeWhile (· = '#')
  match s.drop hashes.length with
  | '"' :: rest => upTo? ('"' :: hashes) rest
  | _ => none

/-- A character up to its closing quote; the opening one is already read. -/
def character? (s : List Char) : Option (Char × List Char) := do
  let (c, rest) ← match s with
    | '\\' :: rest => escape? rest
    | '\'' :: _ => none
    | c :: rest => some (c, rest)
    | [] => none
  match rest with
  | '\'' :: rest => some (c, rest)
  | _ => none

/-! ## Values -/

/-- A value. -/
inductive Value where
  /-- nothing, a truth value or a number -/
  | plain (value : Json)
  /-- a text or a character -/
  | text (s : String)
  /-- elements -/
  | sequence (elements : List Value)
  /-- keys and values in order -/
  | mapping (entries : List (Value × Value))
  /-- a value that might have been missing -/
  | optional (value : Value)
  deriving Inhabited

/-- Whether a record follows an opening bracket: a name and a colon come next. -/
def opensRecord? (s : List Char) : Option Bool := do
  match name? (← skip? s) with
  | none => return false
  | some (_, rest) =>
    match ← skip? rest with
    | [] => none
    | c :: _ => return c = ':'

/-- The words for truth values, nothing and numbers, and `()`. -/
def word? (s : List Char) : Option (Value × List Char) :=
  let words : List (String × Json) :=
    [("true", .bool true), ("false", .bool false), ("None", .null)]
      ++ specials.map fun p => (p.1, .float p.2)
  let found := words.findSome? fun w => (afterWord? w.1 s).map fun rest => (.plain w.2, rest)
  match s with
  | '(' :: ')' :: rest => some (.plain .null, rest)
  | _ => found

mutual

/-- A value, and what follows. `fuel` bounds how far reading goes, and `depth` how deep. -/
def value? (bare : Bool) : (fuel depth : Nat) → List Char → Option (Value × List Char)
  | 0, _, _ => none
  | fuel + 1, depth, s =>
    match word? s with
    | some found => some found
    | none =>
      match afterWord? "Some" s with
      | some rest => some? bare fuel depth rest
      | none =>
        match name? s with
        | some (_, rest) => skip? rest >>= grouped? bare fuel depth
        | none =>
          match s with
          | '(' :: _ => grouped? bare fuel depth s
          | '[' :: rest => elements? bare fuel depth ']' rest
          | '\x7b' :: rest => entries? bare fuel depth false '\x7d' rest
          | '"' :: rest =>
            (characters? (rest.length + 1) rest).map fun (cs, r) => (.text (String.ofList cs), r)
          | 'r' :: rest => (raw? rest).map fun (cs, r) => (.text (String.ofList cs), r)
          | '\'' :: rest =>
            (character? rest).map fun (c, r) => (.text (String.ofList [c]), r)
          | '.' :: _ => (float? s).map fun (x, r) => (.plain (.float x), r)
          | c :: _ =>
            if c.isDigit || c = '+' || c = '-' then
              (number? s).map fun (v, r) => (.plain v, r)
            else none
          | [] => none

/-- A value that might have been missing. Its brackets may be left out only if the document says
so. -/
def some? (bare : Bool) : (fuel depth : Nat) → List Char → Option (Value × List Char)
  | 0, _, _ => none
  | _, 0, _ => none
  | fuel + 1, depth + 1, s => do
    match ← skip? s with
    | '(' :: rest =>
      let (v, rest) ← value? bare fuel depth (← skip? rest)
      let (_, rest) ← comma? rest
      match rest with
      | ')' :: rest => return (.optional v, rest)
      | _ => none
    | rest =>
      if bare then
        let (v, rest) ← value? bare fuel depth rest
        return (.optional v, rest)
      else none

/-- What a bracket opens: a record or a tuple. Nothing, if there is no bracket. -/
def grouped? (bare : Bool) : (fuel depth : Nat) → List Char → Option (Value × List Char)
  | 0, _, _ => none
  | fuel + 1, depth, s =>
    match s with
    | '(' :: rest => do
      if ← opensRecord? rest then entries? bare fuel depth true ')' rest
      else elements? bare fuel depth ')' rest
    | _ => some (.plain .null, s)

/-- The elements of a sequence or a tuple up to its closing mark, as a value, and what follows. -/
def elements? (bare : Bool) : (fuel depth : Nat) → (close : Char) → List Char →
    Option (Value × List Char)
  | 0, _, _, _ => none
  | _, 0, _, _ => none
  | fuel + 1, depth + 1, close, s => do
    let (vs, rest) ← elementsFrom? bare fuel depth close (← skip? s)
    return (.sequence vs, rest)

/-- The elements from here on. -/
def elementsFrom? (bare : Bool) : (fuel depth : Nat) → (close : Char) → List Char →
    Option (List Value × List Char)
  | 0, _, _, _ => none
  | _, _, _, [] => none
  | fuel + 1, depth, close, c :: rest =>
    if c = close then some ([], rest)
    else
      match depth with
      | 0 => none
      | depth + 1 => do
        let (v, rest) ← value? bare fuel depth (c :: rest)
        let (more, rest) ← comma? rest
        if more then
          let (vs, rest) ← elementsFrom? bare fuel (depth + 1) close rest
          return (v :: vs, rest)
        else
          match rest with
          | d :: rest => if d = close then return ([v], rest) else none
          | [] => none

/-- The entries of a record, whose keys are names, or of a mapping up to its closing mark, as a
value, and what follows. -/
def entries? (bare : Bool) : (fuel depth : Nat) → (isRecord : Bool) → (close : Char) →
    List Char → Option (Value × List Char)
  | 0, _, _, _, _ => none
  | _, 0, _, _, _ => none
  | fuel + 1, depth + 1, isRecord, close, s => do
    let (es, rest) ← entriesFrom? bare fuel depth isRecord close (← skip? s)
    return (.mapping es, rest)

/-- The entries from here on. -/
def entriesFrom? (bare : Bool) : (fuel depth : Nat) → (isRecord : Bool) → (close : Char) →
    List Char → Option (List (Value × Value) × List Char)
  | 0, _, _, _, _ => none
  | _, _, _, _, [] => none
  | fuel + 1, depth, isRecord, close, c :: rest =>
    if c = close then some ([], rest)
    else
      match depth with
      | 0 => none
      | depth + 1 => do
        let (k, rest) ←
          if isRecord then
            (name? (c :: rest)).map fun (name, rest) => (Value.text (String.ofList name), rest)
          else value? bare fuel depth (c :: rest)
        match ← skip? rest with
        | ':' :: rest =>
          let (v, rest) ← value? bare fuel depth (← skip? rest)
          let (more, rest) ← comma? rest
          if more then
            let (es, rest) ← entriesFrom? bare fuel (depth + 1) isRecord close rest
            return ((k, v) :: es, rest)
          else
            match rest with
            | d :: rest => if d = close then return ([(k, v)], rest) else none
            | [] => none
        | _ => none

end

/-! ## Documents -/

/-- What a document may ask for in its first lines. -/
def extensions : List String := ["unwrap_newtypes", "implicit_some", "unwrap_variant_newtypes"]

/-- The names in a list up to its end, and what follows; `fuel` is greater than the length. -/
def namesFrom? : (fuel : Nat) → List Char → Option (List String × List Char)
  | 0, _ => none
  | fuel + 1, s => do
    let (name, rest) ← name? s
    let (more, rest) ← comma? rest
    let name := String.ofList name
    if !extensions.contains name then none
    else if rest.head?.any isNameChar then
      if more then
        let (names, rest) ← namesFrom? fuel rest
        return (name :: names, rest)
      else none
    else return ([name], rest)

/-- What follows marks with blanks between and after them. -/
def marks? : List String → List Char → Option (List Char)
  | [], s => some s
  | m :: ms, s =>
    if m.toList.isPrefixOf s then skip? (s.drop m.length) >>= marks? ms else none

/-- What a document asks for in its first lines, and what follows them; `fuel` is greater than the
length. -/
def attributes? : (fuel : Nat) → List Char → Option (List String × List Char)
  | 0, _ => none
  | fuel + 1, s =>
    if s.head? ≠ some '#' then some ([], s)
    else do
      let rest ← marks? ["#", "!", "[", "enable", "("] s
      let (names, rest) ← namesFrom? (rest.length + 1) rest
      let rest ← marks? [")", "]"] rest
      let (more, rest) ← attributes? fuel rest
      return (names ++ more, rest)

mutual

/-- The value of a document as JSON. Only texts are keys. -/
def Value.toJson? : Value → Option Json
  | .plain v => some v
  | .text s => some (.string s)
  | .sequence vs => (elementsToJson? vs).map .array
  | .mapping es => (entriesToJson? es).map .ofEntries
  | .optional v => v.toJson?

/-- The values of elements. -/
def elementsToJson? : List Value → Option (List Json)
  | [] => some []
  | v :: vs => do
    let j ← v.toJson?
    return j :: (← elementsToJson? vs)

/-- The keys and values of entries. -/
def entriesToJson? : List (Value × Value) → Option (List (String × Json))
  | [] => some []
  | (.text k, v) :: es => do
    let j ← v.toJson?
    return (k, j) :: (← entriesToJson? es)
  | _ :: _ => none

end

/-- How deep values may stand inside one another, each counting once for itself and once for what
holds it. -/
def maxDepth : Nat := 128

/-- The value of a text. -/
def ofText? (s : String) : Option Json := do
  let (asked, rest) ← attributes? (s.length + 1) (← skip? s.toList)
  let (v, rest) ← value? (asked.contains "implicit_some") (4 * s.length + 4) maxDepth rest
  if (← skip? rest).isEmpty then v.toJson? else none

end FlowRuns.Ron
