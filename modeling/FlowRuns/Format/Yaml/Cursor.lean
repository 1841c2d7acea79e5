/-!
# Places in a YAML text

YAML reads by columns, so what is left of a text is kept together with where it stands: how many
characters came before, in which line and at which column, and whether the line held nothing but
blanks so far.

* `Yaml.Cursor` — a place in a text, and the text from there on.
* `Cursor.advance`, `Cursor.skip`, `Cursor.run` — steps forward: past one character or line end,
  past some characters of the same line, past all characters of the same line that have a
  property.
* `Cursor.skipBlanks` — past blanks and a comment.
-/

namespace FlowRuns.Yaml

/-! ## Characters -/

/-- Whether a character ends a line. -/
def isBreak (c : Char) : Bool := c = '\n' || c = '\r'

/-- Whether a character is a blank. -/
def isBlank (c : Char) : Bool := c = ' ' || c = '\t'

/-- Whether a character has a meaning of its own within brackets. -/
def isFlowMark (c : Char) : Bool := c = ',' || c = '[' || c = ']' || c = '\x7b' || c = '\x7d'

/-- Whether a character may stand in the name of a directive or of a handle. -/
def isNameChar (c : Char) : Bool := c.isAlphanum || c = '_' || c = '-'

/-- Whether a line ends here; the end of the text ends it too. -/
def endsLine (next : Option Char) : Bool := next.all isBreak

/-- Whether a word ends here for certain: at a blank, a line end or the end of the text. -/
def endsWord (next : Option Char) : Bool := next.all fun c => isBlank c || isBreak c

/-! ## Places -/

/-- A place in a text. -/
structure Cursor where
  /-- the text from here on -/
  rest : List Char
  /-- how many characters came before -/
  index : Nat
  /-- how many lines came before -/
  line : Nat
  /-- how many characters of the line came before -/
  column : Nat
  /-- whether those were all blanks -/
  fresh : Bool
  deriving DecidableEq, Inhabited

namespace Cursor

/-- The beginning of a text. It ends where a null character stands. -/
def ofText (s : String) : Cursor := ⟨s.toList.takeWhile (· ≠ '\x00'), 0, 0, 0, true⟩

/-- The next character. -/
def peek? (c : Cursor) : Option Char := c.rest.head?

/-- The character after the next. -/
def second? (c : Cursor) : Option Char := c.rest[1]?

/-- Whether the text is at its end. -/
def atEnd (c : Cursor) : Bool := c.rest.isEmpty

/-- Whether the line, or the text, ends here. -/
def atLineEnd (c : Cursor) : Bool := endsLine c.peek?

/-- Whether a character comes next. -/
def isAt (c : Cursor) (x : Char) : Bool := c.peek? = some x

/-- Past some characters of the same line. -/
def skip (c : Cursor) (n : Nat) : Cursor :=
  { c with
    rest := c.rest.drop n
    index := c.index + n
    column := c.column + n
    fresh := c.fresh && (c.rest.take n).all isBlank }

/-- The beginning of the next line, which `n` characters lead to. -/
def nextLine (c : Cursor) (n : Nat) : Cursor :=
  ⟨c.rest.drop n, c.index + n, c.line + 1, 0, true⟩

/-- Past one character, or past a line end, which may have two. -/
def advance (c : Cursor) : Cursor :=
  match c.rest with
  | [] => c
  | '\r' :: '\n' :: _ => c.nextLine 2
  | x :: _ => if isBreak x then c.nextLine 1 else c.skip 1

/-- The characters from here on that have a property, within the line, and the place after them. -/
def run (c : Cursor) (p : Char → Bool) : List Char × Cursor :=
  let taken := c.rest.takeWhile fun x => p x && !isBreak x
  (taken, c.skip taken.length)

/-- Past the characters that have a property, within the line. -/
def skipWhile (c : Cursor) (p : Char → Bool) : Cursor := (c.run p).2

/-- To the end of the line. -/
def skipLine (c : Cursor) : Cursor := c.skipWhile fun _ => true

/-- The place after blanks and a comment. -/
structure Spacing where
  /-- the place -/
  cursor : Cursor
  /-- whether a tab was among the blanks -/
  hasTab : Bool
  /-- whether a space was among them -/
  hasSpace : Bool

/-- Past blanks and a comment. A comment has to stand apart from what is before it. -/
def skipBlanks (c : Cursor) : Option Spacing :=
  let (blanks, after) := c.run isBlank
  let spacing (c : Cursor) : Spacing := ⟨c, blanks.contains '\t', blanks.contains ' '⟩
  if after.isAt '#' then
    if blanks.isEmpty then none else some (spacing after.skipLine)
  else some (spacing after)

/-- The same, without what the blanks were. -/
def pastBlanks (c : Cursor) : Option Cursor := c.skipBlanks.map (·.cursor)

/-- Whether a mark of three characters stands alone at the beginning of a line here. -/
def isAtMark (c : Cursor) (mark : List Char) : Bool :=
  c.column = 0 && mark.isPrefixOf c.rest && endsWord (c.rest[3]?)

/-- Whether a mark that a document begins stands here. -/
def isAtStart (c : Cursor) : Bool := c.isAtMark ['-', '-', '-']

/-- Whether a mark that a document ends stands here. -/
def isAtStop (c : Cursor) : Bool := c.isAtMark ['.', '.', '.']

/-- Whether either mark stands here. -/
def isAtEitherMark (c : Cursor) : Bool := c.isAtStart || c.isAtStop

/-- A step takes something away from a text that is not at its end. -/
theorem length_rest_advance_lt (c : Cursor) (h : c.rest ≠ []) :
    c.advance.rest.length < c.rest.length := by
  unfold advance
  split
  · contradiction
  · simp only [nextLine, *, List.length_drop, List.length_cons]; omega
  · split <;> simp [nextLine, skip, *]

end Cursor

end FlowRuns.Yaml
