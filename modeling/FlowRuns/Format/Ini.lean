import FlowRuns.Json.Basic
import FlowRuns.Text.Blank
import FlowRuns.Text.Percent

/-!
# INI documents

Pairs `key = value` in sections that a name in brackets opens. All values are texts. Pairs before
the first section stand on their own. A key ends at the first equals sign or colon, be it lines
away; a value ends with its line. A backslash means the character after it otherwise. Comments have
a line of their own and begin with it.

* `Ini.Item` — what stands in a document: headings of sections, and pairs.
* `Ini.items?` — the items of a text.
* `Ini.ofText?` — the value of a text.
-/

namespace FlowRuns.Ini

/-! ## Texts -/

/-- The characters that a backslash and a letter mean. -/
def escapes : List (Char × Char) :=
  [('0', '\x00'), ('a', '\x07'), ('b', '\x08'), ('t', '\t'), ('r', '\r'), ('n', '\n')]

/-- The number that hexadecimal digits write; a plus sign may come first. -/
def code? (s : List Char) : Option Nat :=
  let digits := match s with
    | '+' :: rest => rest
    | s => s
  digits.foldlM (fun n c => (Text.hexValue? c).map (16 * n + ·)) 0

/-- The characters that are meant after a backslash, and what follows. A line end there is joined,
and the letter `x` announces a code of four digits. -/
def escape? (s : List Char) : Option (List Char × List Char) :=
  match s with
  | [] => none
  | '\n' :: rest => some ([], rest)
  | 'x' :: a :: b :: c :: d :: rest => do
    let code ← code? [a, b, c, d]
    if code.isValidChar then some ([Char.ofNat code], rest) else none
  | 'x' :: _ => none
  | c :: rest => some ([(escapes.lookup c).getD c], rest)

/-- The text up to a character that ends it, and what follows from that character on. Unless the end
of the document may end it too, it has to be ended; `fuel` is greater than the length. -/
def upTo? (ends : List Char) (mayRunOut : Bool) :
    (fuel : Nat) → List Char → Option (List Char × List Char)
  | 0, _ => none
  | _, [] => if mayRunOut then some ([], []) else none
  | fuel + 1, c :: rest =>
    if ends.contains c then some ([], c :: rest)
    else do
      let (meant, rest) ← if c = '\\' then escape? rest else some ([c], rest)
      let (text, rest) ← upTo? ends mayRunOut fuel rest
      some (meant ++ text, rest)

/-- The rest of a line. -/
def restOfLine? (s : List Char) : Option (List Char × List Char) :=
  upTo? ['\n', '\r'] true (s.length + 1) s

/-- A text without the white space it ends with. -/
def trimEnd (s : List Char) : List Char := (s.reverse.dropWhile Text.isBlankChar).reverse

/-- A value: parts in quotes, and then the rest of the line without the white space around it. -/
def value? : (fuel : Nat) → (first : Bool) → List Char → Option (List Char × List Char)
  | 0, _, _ => none
  | _, _, [] => some ([], [])
  | fuel + 1, first, c :: rest =>
    if c = '"' || c = '\'' then do
      let (part, rest) ← upTo? [c] false (rest.length + 1) rest
      let (more, rest) ← value? fuel false (rest.drop 1)
      some (part ++ more, rest)
    else
      (restOfLine? (c :: rest)).map fun (s, r) => (if first then Text.trimChars s else trimEnd s, r)

/-! ## Items -/

/-- What stands in a document. -/
inductive Item where
  /-- the name of a section -/
  | heading (name : String)
  /-- a key and its value -/
  | pair (key value : String)
  deriving DecidableEq, Inhabited

/-- The heading of a section; the opening bracket is already read. -/
def heading? (s : List Char) : Option (Item × List Char) := do
  let (name, rest) ← upTo? [']'] false (s.length + 1) s
  some (.heading (String.ofList (Text.trimChars name)), rest.drop 1)

/-- Whether a blank does not end a line. -/
def isInnerBlank (c : Char) : Bool := Text.isBlankChar c && c ≠ '\n' && c ≠ '\r'

/-- A pair; its key is not empty. -/
def pair? (s : List Char) : Option (Item × List Char) := do
  let (key, rest) ← upTo? ['=', ':'] false (s.length + 1) s
  let key := Text.trimChars key
  if key.isEmpty then none
  else
    let (value, rest) ← value? (rest.length + 1) true ((rest.drop 1).dropWhile isInnerBlank)
    some (.pair (String.ofList key) (String.ofList value), rest)

/-- The items of a text. `opened` tells whether a line begins here; `fuel` is greater than the
length. -/
def items? : (fuel : Nat) → (opened : Bool) → List Char → Option (List Item)
  | 0, _, _ => none
  | fuel + 1, opened, s =>
    let opened := ((s.takeWhile Text.isBlankChar).getLast?.map (· == '\n')).getD opened
    match s.dropWhile Text.isBlankChar with
    | [] => some []
    | c :: rest =>
      if c = ';' || c = '#' then
        if opened then items? fuel true ((rest.dropWhile (· ≠ '\n')).drop 1) else none
      else do
        let (item, rest) ← if c = '[' then heading? rest else pair? (c :: rest)
        return item :: (← items? fuel false rest)

/-! ## Documents -/

/-- The entries outside sections, the sections that are complete, and the one that is open. -/
structure Draft where
  /-- the entries outside sections -/
  entries : List (String × Json)
  /-- the sections that are complete -/
  sections : List (String × Json)
  /-- the section that is open: its name and its entries -/
  opened : Option (String × List (String × Json))

/-- All sections. -/
def Draft.allSections (d : Draft) : List (String × Json) :=
  match d.opened with
  | some (name, es) => d.sections ++ [(name, .ofEntries es)]
  | none => d.sections

/-- One more item. -/
def Draft.add (d : Draft) : Item → Draft
  | .heading name => ⟨d.entries, d.allSections, some (name, [])⟩
  | .pair key value =>
    match d.opened with
    | some (name, es) => { d with opened := some (name, es ++ [(key, .string value)]) }
    | none => { d with entries := d.entries ++ [(key, .string value)] }

/-- The value of a text. Of two entries with one key the later counts, and so it is with sections; a
section counts more than an entry. -/
def ofText? (s : String) : Option Json := do
  let items ← items? (s.length + 1) true s.toList
  let draft := items.foldl Draft.add ⟨[], [], none⟩
  some (.ofEntries (draft.entries ++ draft.allSections))

end FlowRuns.Ini
