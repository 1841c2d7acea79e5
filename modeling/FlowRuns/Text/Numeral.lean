import FlowRuns.Binary64.Decimal

/-!
# Numbers in plain text

How a number is read from a text that is nothing but the number: an optional sign and decimal
digits for an integer; also a point, an exponent, and words for infinity and for what is no number
for a floating-point number. No blanks, no separators between digits, and only the ten ASCII digits.
-/

namespace FlowRuns.Text

/-- The number that ASCII digits write; `none` if there are none, or if something else is there. -/
def natOfDigits? (s : List Char) : Option Nat :=
  if s.isEmpty || !s.all Char.isDigit then none
  else some (s.foldl (fun n c => 10 * n + (c.toNat - 48)) 0)

/-- The sign before a number: whether it is a minus, and what follows. -/
def cutSign : List Char → Bool × List Char
  | '+' :: rest => (false, rest)
  | '-' :: rest => (true, rest)
  | s => (false, s)

/-- An integer between two bounds. -/
def intOf? (low high : Int) (s : List Char) : Option Int :=
  let (negative, digits) := cutSign s
  (natOfDigits? digits).bind fun n =>
    let i : Int := if negative then -n else n
    if low ≤ i ∧ i ≤ high then some i else none

/-- A signed 64-bit integer. -/
def int64Of? (s : String) : Option Int := intOf? Int64.minValue.toInt Int64.maxValue.toInt s.toList

/-- An unsigned 64-bit integer; no minus sign. -/
def uint64Of? (s : String) : Option Int :=
  match s.toList with
  | '-' :: _ => none
  | cs => intOf? 0 (UInt64.size - 1) cs

/-- The exponent of a decimal: zero if there is none. -/
def exponentOf? : List Char → Option Int
  | [] => some 0
  | c :: rest =>
    if c = 'e' || c = 'E' then
      let (negative, digits) := cutSign rest
      (natOfDigits? digits).map fun n => if negative then -n else n
    else none

/-- The finite number that a decimal without sign writes: digits with at most one point among
them, and an exponent. -/
def decimalOf? (negative : Bool) (s : List Char) : Option Binary64 :=
  let whole := s.takeWhile Char.isDigit
  let afterWhole := s.drop whole.length
  let (fraction, rest) := match afterWhole with
    | '.' :: r => (r.takeWhile Char.isDigit, r.dropWhile Char.isDigit)
    | r => ([], r)
  do
    let digits ← natOfDigits? (whole ++ fraction)
    let e ← exponentOf? rest
    some (Binary64.ofDecimal negative digits (e - fraction.length))

/-- The words for infinity, in lower case. -/
def infinityWords : List (List Char) := ["inf".toList, "infinity".toList]

/-- A floating-point number. -/
def binary64Of? (s : String) : Option Binary64 :=
  let (negative, rest) := cutSign s.toList
  let word := rest.map Char.toLower
  if infinityWords.contains word then some (.infinite negative)
  else if word = "nan".toList then some .nan
  else decimalOf? negative rest

end FlowRuns.Text
