import FlowRuns.Json.Basic
import FlowRuns.Text.NameTable
import FlowRuns.Text.Numeral
import FlowRuns.Text.Percent

/-!
# JSON5 documents

JSON with comments, with commas after last elements, with names as keys, with single quotes, with
texts that go on in the next line, and with numbers in more spellings. An integer has to fit 64
bits, one in base sixteen 32 bits and no sign; other numbers have to be finite unless they are
called infinite.

* `Json5.Part` — the parts of a text.
* `Json5.number?` — a number.
* `Json5.ofText?` — the value of a text.
-/

namespace FlowRuns.Json5

/-! ## Blanks -/

/-- Whether a character ends a line. -/
def isLineEnd (c : Char) : Bool := c = '\n' || c = '\r' || c = '\u2028' || c = '\u2029'

/-- The blanks that Unicode calls space separators. -/
def spaceRanges : Text.Ranges :=
  [(0x20, 0x20), (0xA0, 0xA0), (0x1680, 0x1680), (0x2000, 0x200A), (0x202F, 0x202F),
   (0x205F, 0x205F), (0x3000, 0x3000)]

/-- Whether a character is a blank. -/
def isBlank (c : Char) : Bool :=
  isLineEnd c || c = '\t' || c = '\x0b' || c = '\x0c' || c = '\uFEFF' || spaceRanges.contains c

/-- What follows a comment that begins with a star; none if it does not end. -/
def afterStar? : List Char → Option (List Char)
  | [] => none
  | '*' :: '/' :: rest => some rest
  | _ :: rest => afterStar? rest

/-- The text after blanks and comments; `fuel` is greater than the length. -/
def skipping : (fuel : Nat) → List Char → List Char
  | 0, s => s
  | fuel + 1, s =>
    match s.dropWhile isBlank with
    | '/' :: '/' :: rest => skipping fuel (rest.dropWhile (!isLineEnd ·))
    | '/' :: '*' :: rest =>
      match afterStar? rest with
      | some rest => skipping fuel rest
      | none => '/' :: '*' :: rest
    | s => s

/-- The text after blanks and comments. -/
def skip (s : List Char) : List Char := skipping (s.length + 1) s

/-- What follows a mark, and the blanks after it. -/
def mark? (c : Char) (s : List Char) : Option (List Char) :=
  match s with
  | x :: rest => if x = c then some (skip rest) else none
  | [] => none

/-! ## Texts -/

/-- A part of a text: a character, or the code of one or of half of one. -/
inductive Part where
  /-- a character -/
  | char (c : Char)
  /-- a code of 16 bits -/
  | code (n : Nat)
  deriving DecidableEq, Inhabited

/-- The text that parts make. Two halves of a character have to follow one another. -/
def joined? : List Part → Option (List Char)
  | [] => some []
  | .char c :: rest => (joined? rest).map (c :: ·)
  | .code high :: .code low :: rest =>
    if 0xD800 ≤ high && high ≤ 0xDBFF then
      if 0xDC00 ≤ low && low ≤ 0xDFFF then
        (joined? rest).map
          (Char.ofNat ((high - 0xD800) * 0x400 + (low - 0xDC00) + 0x10000) :: ·)
      else none
    else if high.isValidChar then (joined? (.code low :: rest)).map (Char.ofNat high :: ·)
    else none
  | .code n :: rest =>
    if n.isValidChar then (joined? rest).map (Char.ofNat n :: ·) else none

/-- The number that hexadecimal digits write. -/
def hexOf? (s : List Char) : Option Nat :=
  if s.isEmpty then none
  else s.foldlM (fun n c => (Text.hexValue? c).map (16 * n + ·)) 0

/-- The characters that a backslash and a letter mean. -/
def escapes : List (Char × Char) :=
  [('b', '\x08'), ('f', '\x0c'), ('n', '\n'), ('r', '\r'), ('t', '\t'), ('v', '\x0b'),
   ('0', '\x00')]

/-- What is meant after a backslash, and what follows. A line end there is joined. -/
def escape? (s : List Char) : Option (List Part × List Char) :=
  match s with
  | 'u' :: a :: b :: c :: d :: rest => (hexOf? [a, b, c, d]).map fun n => ([.code n], rest)
  | 'x' :: a :: b :: rest => (hexOf? [a, b]).map fun n => ([.char (Char.ofNat n)], rest)
  | '\r' :: '\n' :: rest => some ([], rest)
  | c :: rest =>
    if isLineEnd c then some ([], rest)
    else
      match escapes.lookup c with
      | some x => some ([.char x], rest)
      | none => if c.isDigit || c = 'u' || c = 'x' then none else some ([.char c], rest)
  | [] => none

/-- The parts of a text up to its closing quote, and what follows; `fuel` is greater than the
length. -/
def parts? (quote : Char) : (fuel : Nat) → List Char → Option (List Part × List Char)
  | 0, _ => none
  | _, [] => none
  | fuel + 1, c :: rest =>
    if c = quote then some ([], rest)
    else if isLineEnd c then none
    else do
      let (ps, rest) ← if c = '\\' then escape? rest else some ([.char c], rest)
      let (more, rest) ← parts? quote fuel rest
      some (ps ++ more, rest)

/-- A text in quotes, and what follows; the opening quote is already read. -/
def quoted? (quote : Char) (s : List Char) : Option (String × List Char) := do
  let (ps, rest) ← parts? quote (s.length + 1) s
  some (String.ofList (← joined? ps), rest)

/-- Whether a name may begin with a character. -/
def beginsName (c : Char) : Bool := Text.isLetter c || c = '$' || c = '_'

/-- Whether a name may go on with a character. -/
def isNameChar (c : Char) : Bool :=
  beginsName c || Text.isInnerNameChar c || c = '\u200C' || c = '\u200D'

/-- The parts of a name, and what follows; `fuel` is greater than the length. -/
def nameParts : (fuel : Nat) → (first : Bool) → List Char → List Part × List Char
  | 0, _, s => ([], s)
  | fuel + 1, first, s =>
    let go (p : Part) (rest : List Char) : List Part × List Char :=
      let (ps, rest) := nameParts fuel false rest
      (p :: ps, rest)
    match s with
    | '\\' :: 'u' :: a :: b :: c :: d :: rest =>
      match hexOf? [a, b, c, d] with
      | some n => go (.code n) rest
      | none => ([], s)
    | c :: rest => if beginsName c || (!first && isNameChar c) then go (.char c) rest else ([], s)
    | [] => ([], [])

/-- A key: a name or a text in quotes, and what follows. -/
def key? (s : List Char) : Option (String × List Char) :=
  match s with
  | '"' :: rest => quoted? '"' rest
  | '\'' :: rest => quoted? '\'' rest
  | s => do
    let (ps, rest) := nameParts (s.length + 1) true s
    if ps.isEmpty then none else some (String.ofList (← joined? ps), rest)

/-! ## Numbers -/

/-- The whole part of a number in base ten: a zero alone, or digits without a zero first. -/
def wholePart (s : List Char) : List Char :=
  match s with
  | '0' :: _ => ['0']
  | s => s.takeWhile Char.isDigit

/-- The exponent that a text begins with, or nothing. -/
def exponentPart (s : List Char) : List Char :=
  match s with
  | [] => []
  | e :: rest =>
    if e ≠ 'e' && e ≠ 'E' then []
    else
      let sign := (rest.take 1).filter fun c => c = '+' || c = '-'
      let digits := (rest.drop sign.length).takeWhile Char.isDigit
      if digits.isEmpty then [] else e :: sign ++ digits

/-- The decimal that a text begins with; nothing if there is none. -/
def decimalPart (s : List Char) : List Char :=
  let whole := wholePart s
  match s.drop whole.length with
  | '.' :: rest =>
    let digits := rest.takeWhile Char.isDigit
    if whole.isEmpty && digits.isEmpty then []
    else whole ++ '.' :: digits ++ exponentPart (rest.drop digits.length)
  | rest => if whole.isEmpty then [] else whole ++ exponentPart rest

/-- The value of a decimal with its sign. One without point and exponent is an integer. -/
def decimalValue? (s : List Char) : Option Json :=
  let text := String.ofList s
  if s.any fun c => c = '.' || c = 'e' || c = 'E' then
    (Text.binary64Of? text).bind fun x => if x.isInfinite then none else some (.float x)
  else (Text.int64Of? text).map .int

/-- The sign that a text begins with, or nothing, and what follows. -/
def cutSign : List Char → List Char × List Char
  | '+' :: rest => (['+'], rest)
  | '-' :: rest => (['-'], rest)
  | s => ([], s)

/-- A number in base sixteen: no sign, and 32 bits at most. -/
def hexValue? (sign digits : List Char) : Option Json :=
  if !sign.isEmpty then none
  else (hexOf? digits).bind fun n => if n < UInt32.size then some (.int n) else none

/-- What follows a word that a text begins with. -/
def afterWord? (word : String) (s : List Char) : Option (List Char) :=
  let cs := word.toList
  if cs.isPrefixOf s then some (s.drop cs.length) else none

/-- A word for a number: it may have a minus sign, but no plus sign. -/
def special? (sign s : List Char) : Option (Json × List Char) :=
  if sign = ['+'] then none
  else
    match afterWord? "Infinity" s, afterWord? "NaN" s with
    | some rest, _ => some (.float (.infinite (!sign.isEmpty)), rest)
    | none, some rest => some (.float .nan, rest)
    | none, none => none

/-- The digits of a number in base sixteen, if its mark comes next. -/
def hexPart (s : List Char) : List Char :=
  match s with
  | '0' :: x :: rest =>
    if x = 'x' || x = 'X' then rest.takeWhile fun c => (Text.hexValue? c).isSome else []
  | _ => []

/-- A number, and what follows. -/
def number? (s : List Char) : Option (Json × List Char) :=
  let (sign, s) := cutSign s
  let hex := hexPart s
  if !hex.isEmpty then (hexValue? sign hex).map fun v => (v, s.drop (hex.length + 2))
  else
    let decimal := decimalPart s
    if decimal.isEmpty then special? sign s
    else (decimalValue? (sign ++ decimal)).map fun v => (v, s.drop decimal.length)

/-! ## Values -/

/-- The words with a meaning. -/
def words : List (String × Json) :=
  [("null", .null), ("true", .bool true), ("false", .bool false)]

/-- A word with a meaning, and what follows. -/
def word? (s : List Char) : Option (Json × List Char) :=
  words.findSome? fun w => (afterWord? w.1 s).map fun rest => (w.2, rest)

mutual

/-- A value, and what follows; `fuel` bounds how far reading goes. -/
def value? : (fuel : Nat) → List Char → Option (Json × List Char)
  | 0, _ => none
  | fuel + 1, s =>
    match s with
    | '"' :: rest => (quoted? '"' rest).map fun (t, rest) => (.string t, rest)
    | '\'' :: rest => (quoted? '\'' rest).map fun (t, rest) => (.string t, rest)
    | '[' :: rest => (elements? fuel (skip rest)).map fun (es, rest) => (.array es, rest)
    | '\x7b' :: rest =>
      (entries? fuel (skip rest)).map fun (es, rest) => (.ofEntries es, rest)
    | s => (word? s).or (number? s)

/-- Elements up to the closing bracket, and what follows it. -/
def elements? : (fuel : Nat) → List Char → Option (List Json × List Char)
  | 0, _ => none
  | fuel + 1, s => do
    let (v, rest) ←
      match s with
      | ']' :: rest => return ([], rest)
      | s => value? fuel s
    match skip rest with
    | ']' :: rest => return ([v], rest)
    | rest =>
      let (vs, rest) ← elements? fuel (← mark? ',' rest)
      return (v :: vs, rest)

/-- Entries up to the closing brace, and what follows it. -/
def entries? : (fuel : Nat) → List Char →
    Option (List (String × Json) × List Char)
  | 0, _ => none
  | fuel + 1, s => do
    let (k, rest) ←
      match s with
      | '\x7d' :: rest => return ([], rest)
      | s => key? s
    let (v, rest) ← value? fuel (← mark? ':' (skip rest))
    match skip rest with
    | '\x7d' :: rest => return ([(k, v)], rest)
    | rest =>
      let (es, rest) ← entries? fuel (← mark? ',' rest)
      return ((k, v) :: es, rest)

end

/-- The value of a text. -/
def ofText? (s : String) : Option Json := do
  let (v, rest) ← value? (2 * s.length + 2) (skip s.toList)
  if (skip rest).isEmpty then some v else none

end FlowRuns.Json5
