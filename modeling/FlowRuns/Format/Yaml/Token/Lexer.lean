import FlowRuns.Format.Yaml.Scalar
import FlowRuns.Format.Yaml.Token

/-!
# From a text to tokens

Whether a text or a collection is a key shows only at the colon after it. So its place among the
tokens is remembered, and the tokens that say so are put there later.

* `Yaml.Lexer` — the tokens so far, the place in the text, the blocks that are open, and what may
  still turn out to be a key.
* `Lexer.step?` — one more token, with the ends of blocks before it.
* `Token.ofText?` — the tokens of a text.
-/

namespace FlowRuns.Yaml

/-- A column that lines belong together by. -/
structure Level where
  /-- the column -/
  column : Nat
  /-- whether a block began there; otherwise it only keeps the lines of a value to the right of its
  key -/
  isBlock : Bool
  deriving DecidableEq, Inhabited

/-- Something that is a key if a colon follows. -/
structure Candidate where
  /-- how many tokens come before it -/
  number : Nat
  /-- the line where it stands -/
  line : Nat
  /-- the column where it stands -/
  column : Nat
  /-- how many characters come before it -/
  index : Nat
  /-- whether nothing but a key can stand there -/
  required : Bool
  deriving DecidableEq, Inhabited

/-- The state of reading tokens. -/
structure Lexer where
  /-- the place in the text -/
  cursor : Cursor
  /-- the tokens so far -/
  tokens : Array Token
  /-- the columns of the open blocks, the innermost first -/
  levels : List Level
  /-- whether a key may begin here -/
  keyAllowed : Bool
  /-- what may be a key within the innermost brackets -/
  candidate : Option Candidate
  /-- the same for the brackets around them, and for the blocks around those -/
  outer : List (Option Candidate)
  /-- the place where a colon needs no blank after it -/
  adjacentAt : Nat
  /-- whether pairs belong to a mapping that is open -/
  inMapping : Bool
  /-- for each open sequence in brackets, the innermost first, whether a pair without braces is open
  in it -/
  pairs : List Bool

namespace Lexer

/-- The beginning of a text. -/
def ofText (s : String) : Lexer := ⟨.ofText s, #[], [], true, none, [], 0, false, []⟩

/-- The column of the innermost level, or one less than the first column. -/
def indent (l : Lexer) : Int :=
  match l.levels with
  | [] => -1
  | v :: _ => v.column

/-- Whether brackets or braces are open. -/
def inFlow (l : Lexer) : Bool := !l.outer.isEmpty

/-- One more token. -/
def emit (l : Lexer) (t : Token) : Lexer := { l with tokens := l.tokens.push t }

/-- The same state at another place. -/
def moved (l : Lexer) (c : Cursor) : Lexer := { l with cursor := c }

/-! ## Candidates for keys -/

/-- What comes next may be a key, if keys are allowed here. -/
def propose (l : Lexer) : Lexer :=
  if !l.keyAllowed then l
  else
    let c := l.cursor
    let required := !l.inFlow && match l.levels with
      | [] => false
      | v :: _ => v.isBlock && v.column = c.column
    { l with candidate := some ⟨l.tokens.size, c.line, c.column, c.index, required⟩ }

/-- The candidate is none any more; a failure if it had to be a key. -/
def discard? (l : Lexer) : Option Lexer :=
  if l.candidate.any (·.required) then none else some { l with candidate := none }

/-- How many characters a key without a mark may be away from its colon. -/
def farthestKey : Nat := 1024

/-- Outside brackets, a candidate has to be in the same line, and not too far away. -/
def dropStale? (l : Lexer) : Option Lexer :=
  let stale (k : Candidate) : Bool :=
    k.line < l.cursor.line || k.index + farthestKey < l.cursor.index
  if !l.inFlow && l.candidate.any stale then l.discard? else some l

/-! ## Levels -/

/-- Closes the blocks to the right of a column. -/
def unroll (l : Lexer) (column : Int) : Lexer :=
  if l.inFlow then l
  else
    let deeper := l.levels.takeWhile fun v => column < v.column
    { l with
      levels := l.levels.drop deeper.length
      tokens := l.tokens ++ (deeper.filter (·.isBlock)).map fun _ => Token.blockEnd }

/-- Opens a block at a column, if that is to the right of the innermost level. The token for it is
the one with the given number. -/
def roll (l : Lexer) (column number : Nat) (t : Token) : Lexer :=
  if l.inFlow then l
  else
    let l := match l.levels with
      | v :: rest => if !v.isBlock && v.column ≤ column then { l with levels := rest } else l
      | [] => l
    if l.indent < (column : Int) then
      { l with
        levels := ⟨column, true⟩ :: l.levels
        tokens := l.tokens.insertIdxIfInBounds number t }
    else l

/-- Lines of what follows have to be to the right of the block around it. -/
def rollOne (l : Lexer) : Lexer :=
  match l.levels with
  | v :: rest =>
    if !l.inFlow && v.isBlock then { l with levels := ⟨v.column + 1, false⟩ :: v :: rest } else l
  | [] => l

/-- Only the levels of blocks count from here on. -/
def unrollOnes (l : Lexer) : Lexer := { l with levels := l.levels.dropWhile (!·.isBlock) }

/-! ## Blanks -/

/-- To the next token. A tab may not stand where the indentation of a block is, unless the line is
empty; `fuel` is greater than the length. -/
def toToken? : (fuel : Nat) → Lexer → Option Lexer
  | 0, l => some l
  | fuel + 1, l =>
    let c := l.cursor
    match c.peek? with
    | none => some l
    | some x =>
      if x = '\t' && !l.levels.isEmpty && c.fresh && c.column < l.indent then do
        let c ← c.pastBlanks
        if c.atLineEnd then toToken? fuel (l.moved c) else none
      else if isBlank x then toToken? fuel (l.moved (c.skip 1))
      else if isBreak x then
        toToken? fuel { l with cursor := c.advance, keyAllowed := l.keyAllowed || !l.inFlow }
      else if x = '#' then toToken? fuel (l.moved c.skipLine)
      else some l

/-- Past spaces, line ends and comments after the mark of a key; whether there was any of the
first two. -/
def pastMark : (fuel : Nat) → (spaced : Bool) → Lexer → Bool × Lexer
  | 0, spaced, l => (spaced, l)
  | fuel + 1, spaced, l =>
    let c := l.cursor
    match c.peek? with
    | none => (spaced, l)
    | some x =>
      if x = ' ' then pastMark fuel true (l.moved (c.skip 1))
      else if isBreak x then
        pastMark fuel true { l with cursor := c.advance, keyAllowed := l.keyAllowed || !l.inFlow }
      else if x = '#' then pastMark fuel spaced (l.moved c.skipLine)
      else (spaced, l)

/-! ## Marks of documents -/

/-- The blocks all end, and no key is waited for. -/
def breakOff? (l : Lexer) : Option Lexer :=
  (l.unroll (-1)).discard?.map fun l => { l with keyAllowed := false }

/-- A number in a version: at most nine digits. -/
def versionPart? (c : Cursor) : Option Cursor :=
  let (digits, after) := c.run Char.isDigit
  if digits.isEmpty || 9 < digits.length then none else some after

/-- The two numbers of a version. -/
def version? (c : Cursor) : Option Cursor := do
  let c ← versionPart? (c.skipWhile isBlank)
  if c.isAt '.' then versionPart? (c.skip 1) else none

/-- The characters that may stand in what a tag stands for. -/
def isTagChar (c : Char) : Bool := isNameChar c || "#;/?:@&=+$,_.!~*'()[]%".toList.contains c

/-- The characters that may stand in a short tag. -/
def isShortChar (c : Char) : Bool := isTagChar c && !isFlowMark c && c ≠ '!'

/-- How many bytes a character has, by its first byte. -/
def byteCount? (b : Nat) : Option Nat :=
  if b < 0x80 then some 1
  else if b < 0xC0 then none
  else if b < 0xE0 then some 2
  else if b < 0xF0 then some 3
  else if b < 0xF8 then some 4
  else none

/-- A byte after a percent sign, as two digits. -/
def percentByte? (s : List Char) : Option Nat :=
  match s with
  | '%' :: a :: b :: _ => do some (16 * (← Text.hexValue? a) + (← Text.hexValue? b))
  | _ => none

/-- A number of further bytes after percent signs, put together with what came before. -/
def furtherBytes? : (count : Nat) → (code : Nat) → List Char → Option Nat
  | 0, code, _ => some code
  | count + 1, code, s => do
    let b ← percentByte? s
    if 0x80 ≤ b && b < 0xC0 then furtherBytes? count (256 * code + b) (s.drop 3) else none

/-- The character that bytes after percent signs stand for, and the place after them. -/
def percentChar? (c : Cursor) : Option (Char × Cursor) := do
  let first ← percentByte? c.rest
  let count ← byteCount? first
  let code ← furtherBytes? (count - 1) first (c.rest.drop 3)
  if code.isValidChar then some (Char.ofNat code, c.skip (3 * count)) else none

/-- The characters of a tag, percent signs resolved, and the place after them. -/
def tagText? (p : Char → Bool) : (fuel : Nat) → Cursor → Option (List Char × Cursor)
  | 0, c => some ([], c)
  | fuel + 1, c =>
    match c.peek? with
    | none => some ([], c)
    | some x =>
      if !p x then some ([], c)
      else do
        let (x, c) ← if x = '%' then percentChar? c else some (x, c.skip 1)
        let (xs, c) ← tagText? p fuel c
        some (x :: xs, c)

/-- A handle: a name between exclamation marks, the second of which may be missing. -/
def handle? (c : Cursor) : Option (List Char × Cursor) :=
  if !c.isAt '!' then none
  else
    let (name, after) := (c.skip 1).run isNameChar
    if after.isAt '!' then some ('!' :: name ++ ['!'], after.skip 1) else some ('!' :: name, after)

/-- Whether a handle is closed by a second exclamation mark. -/
def isClosed (handle : List Char) : Bool := 2 ≤ handle.length && handle.getLast? = some '!'

/-- A handle and what it stands for. -/
def tagDirective? (c : Cursor) : Option (Token × Cursor) := do
  let (handle, c) ← handle? (c.skipWhile isBlank)
  if handle ≠ ['!'] && !isClosed handle then none
  else
    let c := c.skipWhile isBlank
    let (leading, c) ←
      if c.isAt '!' then some (['!'], c.skip 1)
      else if c.peek?.any isShortChar then some ([], c)
      else none
    let (text, c) ← tagText? isTagChar (c.rest.length + 1) c
    if endsWord c.peek? then
      some (.tagDirective (String.ofList handle) (String.ofList (leading ++ text)), c)
    else none

/-- A line after a percent sign. -/
def directive? (l : Lexer) : Option Lexer := do
  let l ← l.breakOff?
  let (name, c) := (l.cursor.skip 1).run isNameChar
  if name.isEmpty || !endsWord c.peek? then none
  else
    let (t, c) ←
      if name = "YAML".toList then (version? c).map fun c => (Token.versionDirective, c)
      else if name = "TAG".toList then tagDirective? c
      else some (.tagDirective "" "", c.skipLine)
    let c ← c.pastBlanks
    if c.atLineEnd then some ((l.moved c.advance).emit t) else none

/-- A mark that a document begins. -/
def documentStart? (l : Lexer) : Option Lexer :=
  l.breakOff?.map fun l => (l.moved (l.cursor.skip 3)).emit .documentStart

/-- A mark that a document ends; the line holds nothing else. -/
def documentEnd? (l : Lexer) : Option Lexer := do
  let l ← l.breakOff?
  let c ← (l.cursor.skip 3).pastBlanks
  if c.atLineEnd then some ((l.moved c).emit .documentEnd) else none

/-! ## Brackets and braces -/

/-- How many brackets and braces may be open at once. -/
def deepestFlow : Nat := 255

/-- An opening bracket or brace. -/
def openFlow? (l : Lexer) (t : Token) : Option Lexer :=
  let l := l.propose.rollOne
  if deepestFlow ≤ l.outer.length then none
  else do
    let c ← (l.cursor.skip 1).pastBlanks
    let l := if t = .flowMappingStart then { l with inMapping := true }
      else { l with pairs := false :: l.pairs }
    some ({ l with
      cursor := c
      outer := l.candidate :: l.outer
      candidate := none
      keyAllowed := true }.emit t)

/-- Ends a pair without braces in the innermost sequence. -/
def endPair (l : Lexer) : Lexer :=
  match l.pairs with
  | true :: rest => { l with inMapping := false, pairs := false :: rest }.emit .flowMappingEnd
  | _ => l

/-- A closing bracket or brace. -/
def closeFlow? (l : Lexer) (t : Token) : Option Lexer := do
  let l ← l.discard?
  let l := match l.outer with
    | k :: outer => { l with candidate := k, outer }
    | [] => l
  let l := { l with keyAllowed := false }
  let l := if t = .flowSequenceEnd then
      let l := l.endPair
      { l with pairs := l.pairs.drop 1 }
    else l
  let c ← (l.cursor.skip 1).pastBlanks
  let l := if l.inFlow then { l with adjacentAt := c.index } else l
  some ((l.moved c).emit t)

/-- A comma. -/
def flowEntry? (l : Lexer) : Option Lexer := do
  let l := { (← l.discard?) with keyAllowed := true }.endPair
  some ((l.moved (← (l.cursor.skip 1).pastBlanks)).emit .flowEntry)

/-! ## Elements, keys and values -/

/-- The mark of an element of a sequence by indentation. -/
def blockEntry? (l : Lexer) : Option Lexer :=
  if l.inFlow || !l.keyAllowed then none
  else do
    let column := l.cursor.column
    let spacing ← (l.cursor.skip 1).skipBlanks
    let c := spacing.cursor
    if spacing.hasTab && c.isAt '-' && endsWord c.second? then none
    else
      let l := (l.roll column l.tokens.size .blockSequenceStart).moved c
      let l := if c.peek?.any fun x => isBreak x || isFlowMark x then l.rollOne else l
      let l ← l.discard?
      some ({ l with keyAllowed := true }.emit .blockEntry)

/-- The mark of a key. -/
def key? (l : Lexer) : Option Lexer :=
  if !l.inFlow && !l.keyAllowed then none
  else do
    let l := if l.inFlow then { l with inMapping := true }
      else l.roll l.cursor.column l.tokens.size .blockMappingStart
    let l ← l.discard?
    let c := l.cursor.skip 1
    let (spaced, l) := pastMark (c.rest.length + 1) false
      { l with cursor := c, keyAllowed := !l.inFlow }
    if !spaced || l.cursor.isAt '\t' then none else some (l.emit .key)

/-- Past a colon. Tabs alone do not set a value apart from it. -/
def pastColon? (c : Cursor) : Option Cursor :=
  let c := c.skip 1
  if !c.isAt '\t' then some c
  else do
    let spacing ← c.skipBlanks
    let next := spacing.cursor.peek?
    if !spacing.hasSpace && next.any isNameChar then none else some spacing.cursor

/-- A colon. If it ends a candidate, that becomes a key; a mapping begins before it if none is open.
A pair within brackets is a mapping of its own. -/
def value? (l : Lexer) : Option Lexer := do
  let column := l.cursor.column
  let line := l.cursor.line
  let alone := !l.pairs.isEmpty && !l.inMapping
  let l := if alone then { l with pairs := true :: l.pairs.drop 1 } else l
  let l := l.moved (← pastColon? l.cursor)
  match l.candidate with
  | some k =>
    if alone && k.line < line then none
    else
      let l := { l with tokens := l.tokens.insertIdxIfInBounds k.number .key }
      let l := if alone
        then { l with tokens := l.tokens.insertIdxIfInBounds k.number .flowMappingStart } else l
      let l := (l.roll k.column k.number .blockMappingStart).rollOne
      some ({ l with candidate := none, keyAllowed := false }.emit .value)
  | none =>
    let l := if alone then l.emit .flowMappingStart else l
    if l.inFlow then some ({ l with keyAllowed := false }.emit .value)
    else if !l.keyAllowed then none
    else
      let l := (l.roll column l.tokens.size .blockMappingStart).rollOne
      some ({ l with keyAllowed := true }.emit .value)

/-! ## Names, types and texts -/

/-- What follows belongs to a key that may begin here. -/
def enter (l : Lexer) : Lexer := { l.propose with keyAllowed := false }

/-- Whether a character may stand in the name of a node. -/
def isAnchorChar (c : Char) : Bool :=
  !isBlank c && !isFlowMark c && c.toNat ≠ 0xFEFF

/-- The name of a node. -/
def anchor? (l : Lexer) (t : String → Token) : Option Lexer :=
  let (name, c) := (l.cursor.skip 1).run isAnchorChar
  if name.isEmpty then none else some ((l.enter.moved c).emit (t (String.ofList name)))

/-- A tag written out in full: its characters. -/
def verbatim? (c : Cursor) : Option (List Char × Cursor) := do
  let (text, c) ← tagText? isTagChar (c.rest.length + 1) (c.skip 2)
  if c.isAt '>' then some (text, c.skip 1) else none

/-- A tag with a handle, or with one exclamation mark for its handle; that mark alone is a tag too.
The result is the handle and what follows it. -/
def shorthand? (c : Cursor) : Option (List Char × List Char × Cursor) := do
  let (handle, c) ← handle? c
  let (text, c) ← tagText? isShortChar (c.rest.length + 1) c
  if isClosed handle then if text.isEmpty then none else some (handle, text, c)
  else
    let suffix := handle.drop 1 ++ text
    if suffix.isEmpty then some ([], ['!'], c) else some (['!'], suffix, c)

/-- The type of a node. -/
def tag? (l : Lexer) : Option Lexer := do
  let c := l.cursor
  let (handle, suffix, c) ←
    if c.second? = some '<' then (verbatim? c).map fun (text, c) => ([], text, c)
    else shorthand? c
  if endsWord c.peek? || (l.inFlow && c.peek?.any isFlowMark) then
    some ((l.enter.moved c).emit (.tag (String.ofList handle) (String.ofList suffix)))
  else none

/-- A block of lines. -/
def block? (l : Lexer) (folded : Bool) : Option Lexer := do
  let l := { l.propose with keyAllowed := true }.unrollOnes
  let (text, c) ← Yaml.block? folded l.indent l.cursor
  some ((l.moved c).emit (.scalar false text))

/-- A text in quotes. A colon right after it needs no blank after it. -/
def quoted? (l : Lexer) (q : Quote) : Option Lexer := do
  let (text, c) ← Yaml.quoted? q l.inFlow l.indent l.cursor
  let l ← toToken? (c.rest.length + 1) (l.enter.moved c)
  some ({ l with adjacentAt := l.cursor.index }.emit (.scalar false text))

/-- A plain text. A key may begin after it if its line has ended. -/
def plain? (l : Lexer) : Option Lexer := do
  let l := l.enter.unrollOnes
  let (text, c) ← Yaml.plain? l.inFlow (l.indent + 1) l.cursor
  some ({ l with cursor := c, keyAllowed := c.fresh }.emit (.scalar true text))

/-! ## All tokens -/

/-- Whether a colon here is the mark of a value, given the character after it. -/
def isValueMark (l : Lexer) (next : Option Char) : Bool :=
  endsWord next
    || (l.inFlow && (next.any isFlowMark || l.cursor.index = l.adjacentAt))

/-- The token that begins with a character. -/
def token? (l : Lexer) (x : Char) : Option Lexer :=
  let next := l.cursor.second?
  match x with
  | '[' => l.openFlow? .flowSequenceStart
  | '\x7b' => l.openFlow? .flowMappingStart
  | ']' => l.closeFlow? .flowSequenceEnd
  | '\x7d' => l.closeFlow? .flowMappingEnd
  | ',' => l.flowEntry?
  | '-' => if endsWord next then l.blockEntry? else l.plain?
  | '?' => if endsWord next then l.key? else l.plain?
  | ':' => if l.isValueMark next then l.value? else l.plain?
  | '*' => l.anchor? .alias
  | '&' => l.anchor? .anchor
  | '!' => l.tag?
  | '|' => if l.inFlow then l.plain? else l.block? false
  | '>' => if l.inFlow then l.plain? else l.block? true
  | '\'' => l.quoted? .single
  | '"' => l.quoted? .double
  | '%' => none
  | '@' => none
  | '\x60' => none
  | _ => l.plain?

/-- The next token, at its beginning. -/
def step? (l : Lexer) (x : Char) : Option Lexer :=
  let c := l.cursor
  if c.column = 0 && x = '%' then l.directive?
  else if c.isAtStart then l.documentStart?
  else if c.isAtStop then l.documentEnd?
  else if c.column < l.indent then none
  else l.token? x

/-- The end of the text: no key is waited for, and the blocks all end. -/
def finish? (l : Lexer) : Option (List Token) :=
  if (l.candidate :: l.outer).any fun k => k.any (·.required) then none
  else some (l.unroll (-1)).tokens.toList

/-- The tokens up to the end; `fuel` is greater than the length of the text. -/
def scan? : (fuel : Nat) → Lexer → Option (List Token)
  | 0, _ => none
  | fuel + 1, l => do
    let l ← toToken? (l.cursor.rest.length + 1) l
    let l ← l.dropStale?
    let l := l.unroll l.cursor.column
    match l.cursor.peek? with
    | none => l.finish?
    | some x => l.step? x >>= scan? fuel

end Lexer

/-- The tokens of a text. -/
def Token.ofText? (s : String) : Option (List Token) := Lexer.scan? (s.length + 2) (.ofText s)

end FlowRuns.Yaml
