import FlowRuns.Binary64.Basic

/-!
# Decimal text of binary floating-point numbers

Reading and writing in base ten.

* `Binary64.ofDecimal` — the number nearest to `digits · 10 ^ exponent`.
* `Magnitude.shortest` — of all decimals that read back as a magnitude, one with the fewest
  digits, and of those the nearest.
* `DecimalStyle` — where a point is written and where an exponent; two styles occur, the
  *positional* one of plain text and the *compact* one of JSON text.
-/

namespace FlowRuns

/-- Powers are those of the natural numbers themselves, whatever else is imported. -/
local instance (priority := 2000) powerInDecimals : Pow Nat Nat := instPowNat

/-! ## Reading -/

/-- The power of ten `10 ^ n`. -/
def powerOfTen (n : Nat) : Nat := 10 ^ n

/-- How many decimal digits a number has; zero has one. -/
def decimalLength (n : Nat) : Nat := (Nat.toDigits 10 n).length

/-- The number nearest to `digits · 10 ^ exponent`. An exponent that puts the value far outside
the format is settled without computing the power. -/
def Binary64.ofDecimal (negative : Bool) (digits : Nat) (exponent : Int) : Binary64 :=
  if digits = 0 then .finite negative .zero
  else if 400 < exponent then .infinite negative
  else if exponent + decimalLength digits < -400 then .finite negative .zero
  else if 0 ≤ exponent then
    .nearest negative (digits * powerOfTen exponent.toNat * unitsPerOne) 1
  else .nearest negative (digits * unitsPerOne) (powerOfTen (-exponent).toNat)

/-! ## The shortest decimal -/

namespace Magnitude

/-- The decimals that read back as one magnitude form an interval; its ends are counted in
quarters of a unit, and belong to it when the last binary digit is zero. -/
structure ReadBack where
  /-- the lower end -/
  low : Nat
  /-- the upper end -/
  high : Nat
  /-- whether the ends read back too -/
  closed : Bool

/-- Half way to each neighbour. The lower neighbour of a power of two is nearer by half. -/
def readBack (m : Magnitude) : ReadBack :=
  let e := m.units.log2 - 52
  let down := if m.units = 2 ^ (e + 52) ∧ 0 < e then 2 ^ e else 2 * 2 ^ e
  ⟨4 * m.units - down, 4 * m.units + 2 * 2 ^ e, m.units / 2 ^ e % 2 = 0⟩

/-- A decimal grid: the multiples of `10 ^ exponent`. -/
structure Grid where
  /-- the exponent of the grid -/
  exponent : Int

/-- The step of the grid in quarters of a unit, as a fraction. -/
def Grid.step (g : Grid) : Nat × Nat :=
  (4 * Binary64.unitsPerOne * powerOfTen g.exponent.toNat, powerOfTen (-g.exponent).toNat)

/-- Whether the `d`-th point of the grid reads back. -/
def ReadBack.hit (r : ReadBack) (g : Grid) (d : Nat) : Bool :=
  let (num, den) := g.step
  if r.closed then r.low * den ≤ d * num && d * num ≤ r.high * den
  else r.low * den < d * num && d * num < r.high * den

/-- The point of the grid that reads back as `m`: of its two neighbours there the nearer one,
the even one when they are equally near. -/
def onGrid? (m : Magnitude) (g : Grid) : Option Nat :=
  let (num, den) := g.step
  let below := 4 * m.units * den / num
  match m.readBack.hit g below, m.readBack.hit g (below + 1) with
  | true, true =>
    let toBelow := 4 * m.units * den - below * num
    let toAbove := (below + 1) * num - 4 * m.units * den
    if toBelow < toAbove then some below
    else if toAbove < toBelow then some (below + 1)
    else some (below + below % 2)
  | true, false => some below
  | false, true => some (below + 1)
  | false, false => none

/-- The exponent of the power of ten just above a magnitude that is not zero. -/
def decimalPoint (m : Magnitude) : Int :=
  (decimalLength (m.units * powerOfTen 400 / Binary64.unitsPerOne) : Int) - 400

/-- The first of the grids with `digits`, `digits + 1`, … digits that has a point which reads
back; `more` bounds the search. -/
def shortestFrom (m : Magnitude) (point : Int) (digits : Nat) : Nat → Nat × Int
  | 0 => (0, 0)
  | more + 1 =>
    let g : Grid := ⟨point - digits⟩
    match m.onGrid? g with
    | some d => if d = powerOfTen digits then (1, point) else (d, g.exponent)
    | none => shortestFrom m point (digits + 1) more

/-- **The shortest decimal** that reads back, as digits and an exponent of ten. Seventeen digits
always suffice. -/
def shortest (m : Magnitude) : Nat × Int :=
  if m.units = 0 then (0, 0) else m.shortestFrom m.decimalPoint 1 17

end Magnitude

/-! ## Writing -/

/-- How a decimal is laid out. -/
structure DecimalStyle where
  /-- the least place of the point, counted from the first digit, that is written without an
  exponent; `none` for no bound -/
  leastPoint : Option Int
  /-- the greatest such place -/
  greatestPoint : Option Int
  /-- whether a whole number ends in `.0` -/
  wholeEndsInZero : Bool

/-- Never an exponent: `18446744073709552000`, `0.0000001`, `10`. -/
def DecimalStyle.positional : DecimalStyle := ⟨none, none, false⟩

/-- An exponent from `1e+16` up and below `1e-5`; a whole number keeps its point: `100.0`,
`1.5e+21`, `1e-7`. -/
def DecimalStyle.compact : DecimalStyle := ⟨some (-4), some 16, true⟩

/-- Positional, but a whole number keeps its point. -/
def DecimalStyle.pointed : DecimalStyle := ⟨none, none, true⟩

namespace DecimalStyle

/-- `n` zeros. -/
def zeros (n : Nat) : String := String.ofList (List.replicate n '0')

/-- Whether the point may stand at a place. -/
def admits (style : DecimalStyle) (point : Int) : Bool :=
  style.leastPoint.all (· ≤ point) && style.greatestPoint.all (point ≤ ·)

/-- The digits with the point written `point` places after the first digit's left edge. -/
def withPoint (style : DecimalStyle) (digits : List Char) (point : Int) : String :=
  if point ≤ 0 then "0." ++ zeros (-point).toNat ++ String.ofList digits
  else if digits.length ≤ point.toNat then
    String.ofList digits ++ zeros (point.toNat - digits.length)
      ++ (if style.wholeEndsInZero then ".0" else "")
  else
    String.ofList (digits.take point.toNat) ++ "." ++ String.ofList (digits.drop point.toNat)

/-- The digits with an exponent: one digit, the others after a point, a signed exponent. -/
def withExponent (digits : List Char) (point : Int) : String :=
  let mantissa := match digits with
    | [] => "0"
    | [d] => String.ofList [d]
    | d :: rest => String.ofList (d :: '.' :: rest)
  let e := point - 1
  mantissa ++ "e" ++ (if e < 0 then "-" else "+") ++ toString e.natAbs

/-- The text of a number in a style. -/
def text (style : DecimalStyle) : Binary64 → String
  | .nan => "NaN"
  | .infinite negative => if negative then "-inf" else "inf"
  | .finite negative m =>
    let sign := if negative then "-" else ""
    if m.units = 0 then sign ++ (if style.wholeEndsInZero then "0.0" else "0")
    else
      let (d, e) := m.shortest
      let digits := Nat.toDigits 10 d
      let point := e + digits.length
      sign ++ (if style.admits point then style.withPoint digits point
        else withExponent digits point)

end DecimalStyle

end FlowRuns
