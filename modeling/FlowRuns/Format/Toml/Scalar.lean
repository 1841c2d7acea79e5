import FlowRuns.Calendar.Instant
import FlowRuns.Json.Parser
import FlowRuns.Text.Numeral
import FlowRuns.Text.Percent

/-!
# Single values of TOML

Numbers, truth values and dates are written without quotes, as one word. Underscores may stand
between digits. A date or a time is a text in its normal form.

* `Toml.word?` — the value of a word.
* `Toml.dateTime?` — the normal form of a date, a time, or both.
-/

namespace FlowRuns.Toml

/-! ## Numbers -/

/-- Digits with single underscores between them, without the underscores. -/
def grouped? (isDigit : Char → Bool) : List Char → Option (List Char)
  | [] => none
  | [c] => if isDigit c then some [c] else none
  | c :: '_' :: rest => if isDigit c then (grouped? isDigit rest).map (c :: ·) else none
  | c :: d :: rest => if isDigit c then (grouped? isDigit (d :: rest)).map (c :: ·) else none

/-- The whole part of a number: no needless zero before it. -/
def whole? (s : List Char) : Option (List Char) :=
  (grouped? Char.isDigit s).filter fun digits => digits.length = 1 || digits.head? ≠ some '0'

/-- The number that digits write in a base. -/
def valueOf (base : Nat) (digits : List Char) : Nat :=
  digits.foldl (fun n c => base * n + (Text.hexValue? c).getD 0) 0

/-- An integer of 64 bits. -/
def held? (i : Int) : Option Json :=
  if Int64.minValue.toInt ≤ i ∧ i ≤ Int64.maxValue.toInt then some (.int i) else none

/-- An integer in a base of which only the digits are written. -/
def based? (base : Nat) (s : List Char) : Option Json := do
  let digits ← grouped? (fun c => (Text.hexValue? c).any (· < base)) s
  held? (valueOf base digits)

/-- An integer. -/
def integer? (s : List Char) : Option Json :=
  match s with
  | '0' :: 'x' :: digits => based? 16 digits
  | '0' :: 'o' :: digits => based? 8 digits
  | '0' :: 'b' :: digits => based? 2 digits
  | s => do
    let (negative, rest) := Text.cutSign s
    let n : Int := valueOf 10 (← whole? rest)
    held? (if negative then -n else n)

/-- A floating-point number with a fraction, an exponent or both; too great a one is none. -/
def fractional? (s : List Char) : Option Json := do
  let (negative, rest) := Text.cutSign s
  let whole := rest.takeWhile fun c => c ≠ '.' && c ≠ 'e' && c ≠ 'E'
  let after := rest.drop whole.length
  let (fraction, exponent) := match after with
    | '.' :: r =>
      let f := r.takeWhile fun c => c ≠ 'e' && c ≠ 'E'
      (some f, r.drop f.length)
    | r => (none, r)
  let wholeDigits ← whole? whole
  let fractionDigits ← match fraction with
    | some f => grouped? Char.isDigit f
    | none => some []
  let e : Int ← match exponent with
    | [] => if fraction.isSome then some 0 else none
    | _ :: r => do
      let (below, digits) := Text.cutSign r
      let n : Int := valueOf 10 (← grouped? Char.isDigit digits)
      some (if below then -n else n)
  let x := Binary64.ofDecimal negative (valueOf 10 (wholeDigits ++ fractionDigits))
    (e - fractionDigits.length)
  if x = .infinite false then none else some (.float x)

/-- Infinity, or what is no number. -/
def special? (s : List Char) : Option Json :=
  let (negative, rest) := Text.cutSign s
  if rest = "inf".toList then some (.float (.infinite negative))
  else if rest = "nan".toList then some (.float .nan)
  else none

/-! ## Dates and times -/

/-- Two digits up to a bound, and what follows. -/
def twoDigits? (low high : Nat) : List Char → Option (Nat × List Char)
  | a :: b :: rest => do
    let n ← Text.natOfDigits? [a, b]
    if low ≤ n ∧ n ≤ high then some (n, rest) else none
  | _ => none

/-- The text after a given mark. -/
def after? (mark : Char) : List Char → Option (List Char)
  | c :: rest => if c = mark then some rest else none
  | [] => none

/-- A date, and what follows. -/
def date? (s : List Char) : Option (String × List Char) := do
  let year ← Text.natOfDigits? (s.take 4)
  let s ← after? '-' (s.drop 4)
  let (month, s) ← twoDigits? 1 12 s
  let s ← after? '-' s
  let (day, s) ← twoDigits? 1 (Civil.daysInMonth year month) s
  some (Date.padded 4 year ++ "-" ++ Date.padded 2 month ++ "-" ++ Date.padded 2 day, s)

/-- The fraction of a second, nine digits of it, without zeros at its end. -/
def fractionText (digits : List Char) : String :=
  let held := ((digits.take 9).reverse.dropWhile (· = '0')).reverse
  if held.isEmpty then "" else String.ofList ('.' :: held)

/-- A time of day, and what follows. -/
def time? (s : List Char) : Option (String × List Char) := do
  let (hour, s) ← twoDigits? 0 23 s
  let s ← after? ':' s
  let (minute, s) ← twoDigits? 0 59 s
  let s ← after? ':' s
  let (second, s) ← twoDigits? 0 60 s
  let text := Date.padded 2 hour ++ ":" ++ Date.padded 2 minute ++ ":" ++ Date.padded 2 second
  match s with
  | '.' :: rest =>
    let digits := rest.takeWhile Char.isDigit
    if digits.isEmpty then none
    else some (text ++ fractionText digits, rest.drop digits.length)
  | s => some (text, s)

/-- An offset from universal time, to the end. -/
def offset? (s : List Char) : Option String := do
  match s with
  | [] => some ""
  | ['Z'] => some "Z"
  | ['z'] => some "Z"
  | c :: rest =>
    if c ≠ '+' && c ≠ '-' then none
    else
      let (hours, rest) ← twoDigits? 0 23 rest
      let rest ← after? ':' rest
      let (minutes, rest) ← twoDigits? 0 59 rest
      let sign := if c = '-' && (hours, minutes) ≠ (0, 0) then "-" else "+"
      if rest.isEmpty then some (sign ++ Date.padded 2 hours ++ ":" ++ Date.padded 2 minutes)
      else none

/-- A date, a time, or both, in normal form. -/
def dateTime? (s : List Char) : Option String :=
  match date? s with
  | some (date, []) => some date
  | some (date, c :: rest) =>
    if c = 'T' || c = 't' || c = ' ' then do
      let (time, rest) ← time? rest
      some (date ++ "T" ++ time ++ (← offset? rest))
    else none
  | none =>
    match time? s with
    | some (time, []) => some time
    | _ => none

/-! ## Words -/

/-- The value of a word. -/
def word? (s : List Char) : Option Json :=
  if s = "true".toList then some (.bool true)
  else if s = "false".toList then some (.bool false)
  else
    (integer? s).or <| (fractional? s).or <| (special? s).or ((dateTime? s).map .string)

/-- Whether a character may stand in a word. -/
def isWordChar (c : Char) : Bool :=
  c.isAlphanum || c = '+' || c = '-' || c = '_' || c = '.' || c = ':'

/-- A word at the beginning of a text. A space between a date and a time belongs to it. -/
def wordOf (s : List Char) : List Char × List Char :=
  let first := s.takeWhile isWordChar
  match date? first, s.drop first.length with
  | some (_, []), ' ' :: a :: rest =>
    if a.isDigit then
      let second := (a :: rest).takeWhile isWordChar
      (first ++ ' ' :: second, (a :: rest).drop second.length)
    else (first, ' ' :: a :: rest)
  | _, rest => (first, rest)

/-! ## Texts in quotes -/

/-- Whether a character may stand in a text or a comment as it is. -/
def isPrintable (c : Char) : Bool := c = '\t' || (0x20 ≤ c.toNat && c.toNat ≠ 0x7f)

/-- The character with a code written in hexadecimal. -/
def codePoint? (digits : List Char) : Option Char :=
  if !digits.all fun c => (Text.hexValue? c).isSome then none
  else
    let n := valueOf 16 digits
    if n < 0xD800 || (0xE000 ≤ n && n < 0x110000) then some (Char.ofNat n) else none

/-- The character after a backslash, and what follows. -/
def escape? : List Char → Option (Char × List Char)
  | 'b' :: r => some ('\x08', r)
  | 't' :: r => some ('\t', r)
  | 'n' :: r => some ('\n', r)
  | 'f' :: r => some ('\x0c', r)
  | 'r' :: r => some ('\r', r)
  | '"' :: r => some ('"', r)
  | '\\' :: r => some ('\\', r)
  | 'u' :: r => if r.length < 4 then none else (codePoint? (r.take 4)).map fun c => (c, r.drop 4)
  | 'U' :: r => if r.length < 8 then none else (codePoint? (r.take 8)).map fun c => (c, r.drop 8)
  | _ => none

/-- The text after a line end, if one comes next. -/
def lineEnd? : List Char → Option (List Char)
  | '\n' :: r => some r
  | '\r' :: '\n' :: r => some r
  | _ => none

/-- Whether a character is a blank within a line. -/
def isBlank (c : Char) : Bool := c = ' ' || c = '\t'

/-- The text from the first character that is neither a blank nor a line end. -/
def skipLines : List Char → List Char
  | ' ' :: r => skipLines r
  | '\t' :: r => skipLines r
  | '\n' :: r => skipLines r
  | '\r' :: '\n' :: r => skipLines r
  | s => s

/-- The text up to the closing quote, with escapes; `fuel` is at least the length. -/
def escaped? : (fuel : Nat) → List Char → Option (List Char × List Char)
  | 0, _ => none
  | fuel + 1, s =>
    match s with
    | '"' :: r => some ([], r)
    | '\\' :: r => do
      let (c, r) ← escape? r
      let (cs, r) ← escaped? fuel r
      some (c :: cs, r)
    | c :: r =>
      if isPrintable c then (escaped? fuel r).map fun (cs, r) => (c :: cs, r) else none
    | [] => none

/-- The text up to the closing quote, without escapes. -/
def plain? : List Char → Option (List Char × List Char)
  | '\'' :: r => some ([], r)
  | c :: r => if isPrintable c then (plain? r).map fun (cs, r) => (c :: cs, r) else none
  | [] => none

/-- The end of a text of several lines, if three to five quotes come next: all but three of them
belong to the text. -/
def closing? (quote : Char) (s : List Char) : Option (List Char × List Char) :=
  let quotes := (s.take 5).takeWhile (· = quote)
  if quotes.length < 3 then none else some (quotes.drop 3, s.drop quotes.length)

/-- A text of several lines up to its closing quotes; `fuel` is at least the length. -/
def lines? (quote : Char) : (fuel : Nat) → List Char → Option (List Char × List Char)
  | 0, _ => none
  | fuel + 1, s =>
    match closing? quote s with
    | some ends => some ends
    | none =>
      match lineEnd? s with
      | some r => (lines? quote fuel r).map fun (cs, r) => ('\n' :: cs, r)
      | none =>
        match s with
        | [] => none
        | c :: r =>
          if c = '\\' && quote = '"' then
            match lineEnd? (r.dropWhile isBlank) with
            | some r => lines? quote fuel (skipLines r)
            | none => do
              let (c, r) ← escape? r
              let (cs, r) ← lines? quote fuel r
              some (c :: cs, r)
          else if isPrintable c then (lines? quote fuel r).map fun (cs, r) => (c :: cs, r)
          else none

/-- A text in quotes at the beginning of a text, of one line only. -/
def quotedLine? (s : List Char) : Option (String × List Char) :=
  match s with
  | '"' :: r => (escaped? r.length r).map fun (cs, r) => (String.ofList cs, r)
  | '\'' :: r => (plain? r).map fun (cs, r) => (String.ofList cs, r)
  | _ => none

/-- A text in quotes at the beginning of a text. A line end right after three quotes is not part of
it. -/
def quoted? (s : List Char) : Option (String × List Char) :=
  match s with
  | a :: b :: c :: r =>
    if a = b && b = c && (a = '"' || a = '\'') then
      let r := (lineEnd? r).getD r
      (lines? a r.length r).map fun (cs, r) => (String.ofList cs, r)
    else quotedLine? s
  | s => quotedLine? s

end FlowRuns.Toml
