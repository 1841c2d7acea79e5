import FlowRuns.Format.Yaml.Cursor
import FlowRuns.Text.Percent

/-!
# Texts in YAML

A text is written plainly, in quotes, or as a block of lines. Plain and quoted texts may go on in
the next line, if that is indented far enough: one line end then stands for a space, and `n + 1`
line ends stand for `n`. In a block the line ends count, unless it is folded.

* `Yaml.Folding` — what was read of a text, with the blanks and line ends that wait to be joined.
* `Yaml.plain?`, `Yaml.quoted?`, `Yaml.block?` — a text of each kind, and the place after it.
-/

namespace FlowRuns.Yaml

/-! ## Joining lines -/

/-- What was read of a text. -/
structure Folding where
  /-- the text so far, its last character first -/
  text : List Char
  /-- the blanks after it, the last one first -/
  blanks : List Char
  /-- whether a line ended after it -/
  broken : Bool
  /-- how many more lines ended -/
  breaks : Nat

namespace Folding

/-- The text with a number of line ends after it. -/
def withBreaks (f : Folding) : List Char := List.replicate f.breaks '\n' ++ f.text

/-- One more blank. -/
def addBlank (f : Folding) (c : Char) : Folding := { f with blanks := c :: f.blanks }

/-- The first line end after the text; the blanks before it do not count. -/
def addFirstBreak (f : Folding) : Folding := { f with blanks := [], broken := true }

/-- A further line end. -/
def addBreak (f : Folding) : Folding := { f with breaks := f.breaks + 1 }

/-- The lines joined. -/
def joinLines (f : Folding) : Folding :=
  ⟨if f.broken && f.breaks = 0 then ' ' :: f.text else f.withBreaks, f.blanks, false, 0⟩

/-- The blanks joined to the text. -/
def joinBlanks (f : Folding) : Folding := { f with text := f.blanks ++ f.text, blanks := [] }

/-- The text with more characters after it. -/
def append (f : Folding) (s : List Char) : Folding := { f with text := s.reverse ++ f.text }

/-- The text. -/
def result (f : Folding) : String := String.ofList f.text.reverse

end Folding

/-! ## Plain texts -/

/-- Whether a plain text goes on with a character, given what comes after that. A colon that a
blank follows ends it, and so does, within brackets, every character with a meaning there. -/
def continuesPlain (inFlow : Bool) (c : Char) (next : Option Char) : Bool :=
  if c = ':' then !endsWord next && !(inFlow && next.any isFlowMark)
  else !(inFlow && isFlowMark c)

/-- The part of a plain text up to the next blank. -/
def plainWord (inFlow : Bool) : List Char → List Char
  | [] => []
  | c :: rest =>
    if isBlank c || isBreak c || !continuesPlain inFlow c rest.head? then []
    else c :: plainWord inFlow rest

/-- Past the blanks and line ends within a plain text whose lines begin at the column `least` or
later. A tab before that column may stand only in a line without text. -/
def plainGap? (least : Int) : (fuel : Nat) → Folding → Cursor → Option (Folding × Cursor)
  | 0, f, c => some (f, c)
  | fuel + 1, f, c =>
    match c.peek? with
    | none => some (f, c)
    | some x =>
      if isBlank x then
        if !c.fresh then plainGap? least fuel (f.addBlank x) (c.skip 1)
        else if x = '\t' && c.column < least then do
          let c ← c.pastBlanks
          if c.atLineEnd then plainGap? least fuel f c else none
        else plainGap? least fuel f (c.skip 1)
      else if isBreak x then
        plainGap? least fuel (if c.fresh then f.addBreak else f.addFirstBreak) c.advance
      else some (f, c)

/-- The parts of a plain text; `fuel` is greater than the length. -/
def plainParts? (inFlow : Bool) (least : Int) :
    (fuel : Nat) → Folding → Cursor → Option (Folding × Cursor)
  | 0, f, c => some (f, c)
  | fuel + 1, f, c =>
    if c.isAtEitherMark || c.isAt '#' then some (f, c)
    else if inFlow && c.isAt '-' && c.second?.any isFlowMark then none
    else
      let word := plainWord inFlow c.rest
      let (f, c) :=
        if word.isEmpty then (f, c)
        else
          ((if c.fresh then f.joinLines else f.joinBlanks).append word, c.skip word.length)
      if c.peek?.any fun x => isBlank x || isBreak x then do
        let (f, c) ← plainGap? least (c.rest.length + 1) f c
        if !inFlow && c.column < least then some (f, c)
        else plainParts? inFlow least fuel f c
      else some (f, c)

/-- A plain text whose further lines begin at the column `least` or later, and the place after
it. -/
def plain? (inFlow : Bool) (least : Int) (c : Cursor) : Option (String × Cursor) :=
  if inFlow && c.column < least then none
  else
    (plainParts? inFlow least (c.rest.length + 1) ⟨[], [], false, 0⟩ c).map fun (f, c) =>
      (f.result, c)

/-! ## Texts in quotes -/

/-- The two kinds of quotes. -/
inductive Quote where
  /-- within which only the quote itself can be meant otherwise: it is written twice -/
  | single
  /-- within which a backslash tells what is meant -/
  | double
  deriving DecidableEq, Inhabited

/-- The quote as a character. -/
def Quote.char : Quote → Char
  | single => '\''
  | double => '"'

/-- The character with a code in hexadecimal digits of a certain number, and how many those are. -/
def coded? (count : Nat) (s : List Char) : Option (Char × Nat) := do
  let digits := s.take count
  if digits.length < count then none
  let code ← digits.foldlM (fun n c => (Text.hexValue? c).map (16 * n + ·)) 0
  if code.isValidChar then some (Char.ofNat code, count) else none

/-- The characters that a backslash and a letter or a mark mean. -/
def escapes : List (Char × Char) :=
  [('0', '\x00'), ('a', '\x07'), ('b', '\x08'), ('t', '\t'), ('\t', '\t'), ('n', '\n'),
   ('v', '\x0b'), ('f', '\x0c'), ('r', '\r'), ('e', '\x1b'), (' ', ' '), ('"', '"'), ('/', '/'),
   ('\\', '\\'), ('N', '\u0085'), ('_', '\u00a0'), ('L', '\u2028'), ('P', '\u2029')]

/-- How many digits a letter announces. -/
def codeLengths : List (Char × Nat) := [('x', 2), ('u', 4), ('U', 8)]

/-- The character that is meant after a backslash, and how many characters say so. -/
def escape? (s : List Char) : Option (Char × Nat) :=
  match s with
  | [] => none
  | c :: rest =>
    match codeLengths.lookup c with
    | some count => (coded? count rest).map fun (x, n) => (x, n + 1)
    | none => (escapes.lookup c).map fun x => (x, 1)

/-- The part of a quoted text up to the next blank, line end or closing quote. It also tells whether
it ended with a backslash at the end of a line, which takes the line end away. -/
def quotedWord? (q : Quote) : (fuel : Nat) → Folding → Cursor → Option (Folding × Cursor × Bool)
  | 0, f, c => some (f, c, false)
  | fuel + 1, f, c =>
    match c.rest with
    | [] => some (f, c, false)
    | x :: rest =>
      if isBlank x || isBreak x then some (f, c, false)
      else if x = q.char then
        if q = .single && rest.head? = some '\'' then
          quotedWord? q fuel (f.append ['\'']) (c.skip 2)
        else some (f, c, false)
      else if x = '\\' && q = .double then
        if rest.head?.any isBreak then some (f, (c.skip 1).advance, true)
        else do
          let (e, n) ← escape? rest
          quotedWord? q fuel (f.append [e]) (c.skip (n + 1))
      else quotedWord? q fuel (f.append [x]) (c.skip 1)

/-- Past the blanks and line ends within a quoted text. `leading` tells whether the line has begun
without text so far. -/
def quotedGap? (indent : Int) :
    (fuel : Nat) → Folding → Cursor → (leading : Bool) → Option (Folding × Cursor × Bool)
  | 0, f, c, leading => some (f, c, leading)
  | fuel + 1, f, c, leading =>
    match c.peek? with
    | none => some (f, c, leading)
    | some x =>
      if isBlank x then
        if !leading then quotedGap? indent fuel (f.addBlank x) (c.skip 1) false
        else if x = '\t' && c.column < indent then none
        else quotedGap? indent fuel f (c.skip 1) true
      else if isBreak x then
        quotedGap? indent fuel (if leading then f.addBreak else f.addFirstBreak) c.advance true
      else some (f, c, leading)

/-- The parts of a quoted text, up to its closing quote; `fuel` is greater than the length. -/
def quotedParts? (q : Quote) (indent : Int) : (fuel : Nat) → Folding → Cursor →
    Option (Folding × Cursor)
  | 0, _, _ => none
  | fuel + 1, f, c =>
    if c.isAtEitherMark || c.atEnd || c.column < indent then none
    else do
      let (f, c, leading) ← quotedWord? q (c.rest.length + 1) f c
      if c.isAt q.char then some (f, c.skip 1)
      else
        let (f, c, leading) ← quotedGap? indent (c.rest.length + 1) f c leading
        quotedParts? q indent fuel (if leading then f.joinLines else f.joinBlanks) c

/-- Whether something may follow a quoted text that began in line `line`. -/
def mayFollowQuoted (inFlow : Bool) (line : Nat) (c : Cursor) : Bool :=
  match c.peek? with
  | none => true
  | some x =>
    isBreak x || (inFlow && (x = ',' || x = ']' || x = '\x7d'))
      || (x = ':' && (inFlow || line = c.line))

/-- A quoted text whose lines do not begin before the column `indent`, and the place after it and
the blanks that follow. -/
def quoted? (q : Quote) (inFlow : Bool) (indent : Int) (c : Cursor) : Option (String × Cursor) := do
  let (f, after) ← quotedParts? q indent (c.rest.length + 1) ⟨[], [], false, 0⟩ (c.skip 1)
  let after ← after.pastBlanks
  if mayFollowQuoted inFlow c.line after then some (f.result, after) else none

/-! ## Blocks -/

/-- What becomes of the line ends after the text of a block. -/
inductive Chomping where
  /-- one is kept -/
  | clip
  /-- none is kept -/
  | strip
  /-- all are kept -/
  | keep
  deriving DecidableEq, Inhabited

/-- The sign of a chomping. -/
def Chomping.ofChar? : Char → Option Chomping
  | '-' => some strip
  | '+' => some keep
  | _ => none

/-- The sign of a chomping, if there is one, and the place after it. -/
def chomping? (c : Cursor) : Option (Chomping × Cursor) :=
  (c.peek? >>= Chomping.ofChar?).map fun ch => (ch, c.skip 1)

/-- The digit that tells the indentation, not zero; none if there is no digit. -/
def increment? (c : Cursor) : Option (Nat × Cursor) :=
  match c.peek? with
  | some x =>
    if !x.isDigit then some (0, c)
    else if x = '0' then none
    else some (x.toNat - 48, c.skip 1)
  | none => some (0, c)

/-- The heading of a block after its mark: the chomping and by how much the lines are indented,
in either order; zero if that is not told. -/
def heading? (c : Cursor) : Option (Chomping × Nat × Cursor) :=
  match chomping? c with
  | some (ch, c) => (increment? c).map fun (n, c) => (ch, n, c)
  | none => do
    let (n, c) ← increment? c
    if n = 0 then some (.clip, 0, c)
    else
      let (ch, c) := (chomping? c).getD (.clip, c)
      some (ch, n, c)

/-- Past empty lines, and past the spaces of the first line that is not empty, up to the column
`indent`: how many lines ended, and the place. -/
def emptyLines (indent : Nat) : (fuel : Nat) → (breaks : Nat) → Cursor → Nat × Cursor
  | 0, breaks, c => (breaks, c)
  | fuel + 1, breaks, c =>
    let spaces := (c.rest.takeWhile (· = ' ')).length
    let c := c.skip (min spaces (indent - c.column))
    if c.peek?.any isBreak then emptyLines indent fuel (breaks + 1) c.advance else (breaks, c)

/-- Past empty lines, and past all spaces of the first line that is not empty: the greatest
column that was reached, how many lines ended, and the place. -/
def firstLines : (fuel : Nat) → (greatest breaks : Nat) → Cursor → Nat × Nat × Cursor
  | 0, greatest, breaks, c => (greatest, breaks, c)
  | fuel + 1, greatest, breaks, c =>
    let c := c.skipWhile (· = ' ')
    let greatest := max greatest c.column
    if c.peek?.any isBreak then firstLines fuel greatest (breaks + 1) c.advance
    else (greatest, breaks, c)

/-- What was read of a block. -/
structure Block where
  /-- the text so far, its last character first -/
  text : List Char
  /-- whether the last line of it ended -/
  broken : Bool
  /-- how many empty lines came after it -/
  breaks : Nat
  /-- whether the last line of it began with a blank -/
  blankLed : Bool

/-- The block with the line ends before its next line joined. In a folded block one line end
between two lines that do not begin with a blank is a space. -/
def Block.join (b : Block) (folded blankLed : Bool) : List Char :=
  let empty := List.replicate b.breaks '\n'
  if folded && b.broken && !b.blankLed && !blankLed then
    if b.breaks = 0 then ' ' :: b.text else empty ++ b.text
  else empty ++ (if b.broken then '\n' :: b.text else b.text)

/-- The lines of a block at the column `indent`; `fuel` is greater than the length. -/
def blockLines (folded : Bool) (indent : Nat) : (fuel : Nat) → Block → Cursor → Block × Cursor
  | 0, b, c => (b, c)
  | fuel + 1, b, c =>
    if c.column ≠ indent || c.atEnd || c.isAtStop then (b, c)
    else
      let blankLed := c.peek?.any isBlank
      let (line, c) := c.run fun _ => true
      let text := line.reverse ++ b.join folded blankLed
      if c.atEnd then (⟨text, false, 0, blankLed⟩, c)
      else
        let (breaks, c) := emptyLines indent (c.rest.length + 1) 0 c.advance
        blockLines folded indent fuel ⟨text, true, breaks, blankLed⟩ c

/-- The text of a block whose lines are read, with the line ends after them. A last line that the
text ends in is ended all the same. -/
def Block.finish (b : Block) (chomping : Chomping) (indent : Nat) (c : Cursor) : String :=
  let ended := if b.broken then '\n' :: b.text else b.text
  let ended := if c.atEnd && max indent 1 ≤ c.column then '\n' :: ended else ended
  let s := match chomping with
    | .strip => b.text
    | .clip => ended
    | .keep => List.replicate b.breaks '\n' ++ ended
  String.ofList s.reverse

/-- The text of a block without lines at the end of a document: `headed` tells whether the line of
its mark ended. -/
def emptyBlock (chomping : Chomping) (headed : Bool) (breaks : Nat) : String :=
  let ends := if !headed then 0
    else match chomping with
      | .strip => 0
      | .clip => 1
      | .keep => max breaks 1
  String.ofList (List.replicate ends '\n')

/-- A block below the column `indent`, and the place after it. If the indentation is not told, it
is that of the first line with a text, or of an empty line before it that is indented further. -/
def block? (folded : Bool) (indent : Int) (c : Cursor) : Option (String × Cursor) := do
  let (chomping, increment, c) ← heading? (c.skip 1)
  let c ← c.pastBlanks
  if !c.atLineEnd then none
  else
    let headed := !c.atEnd
    let c := c.advance
    if c.isAt '\t' then none
    else
      let (column, breaks, c) :=
        if increment = 0 then
          let (greatest, breaks, c) := firstLines (c.rest.length + 1) 0 0 c
          (max greatest (indent + 1).toNat, breaks, c)
        else
          let column := if 0 ≤ indent then indent.toNat + increment else increment
          let (breaks, c) := emptyLines column (c.rest.length + 1) 0 c
          (column, breaks, c)
      if c.atEnd then some (emptyBlock chomping headed breaks, c)
      else if c.column < column && indent < c.column then none
      else
        let (b, c) := blockLines folded column (c.rest.length + 1) ⟨[], false, breaks, false⟩ c
        some (b.finish chomping column c, c)

end FlowRuns.Yaml
