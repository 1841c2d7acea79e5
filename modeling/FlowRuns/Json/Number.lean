import FlowRuns.Json.Basic
import FlowRuns.Binary64.Decimal

/-!
# Reading numbers

A JSON number without point and exponent that fits 64 bits, signed or unsigned, is an integer. Any
other is a binary floating-point number: as many leading digits as fit an unsigned 64-bit integer
are converted, and the result is scaled by a power of ten, each step rounded. A number too large
for the format is refused; minus zero is the negative zero.
-/

namespace FlowRuns.Json

/-- The digits of a number as they were written. -/
structure NumberText where
  /-- whether a minus sign comes first -/
  negative : Bool
  /-- the digits before the point -/
  whole : List Nat
  /-- the digits after the point, `none` without a point -/
  fraction : Option (List Nat)
  /-- the exponent: whether it is negative, and its digits -/
  exponent : Option (Bool × List Nat)

/-- The largest unsigned 64-bit integer. -/
def largestUInt64 : Nat := UInt64.size - 1

/-- The largest signed 32-bit integer. -/
def largestInt32 : Nat := 0x7fffffff

/-- Appends digits to a number up to the first that would carry it beyond `bound`; gives the number
and how many digits were appended. -/
def appendDigits (bound : Nat) : Nat → List Nat → Nat × Nat
  | n, [] => (n, 0)
  | n, d :: rest =>
    if bound < 10 * n + d then (n, 0)
    else
      let (m, taken) := appendDigits bound (10 * n + d) rest
      (m, taken + 1)

/-- `x · 10 ^ e`, one multiplication or division by a power of ten of the format at a time; `none`
beyond the largest number. -/
def scale : Nat → Binary64 → Int → Option Binary64
  | 0, x, _ => some x
  | steps + 1, x, e =>
    if e.natAbs ≤ 308 then
      let power := Binary64.ofDecimal false 1 e.natAbs
      if 0 ≤ e then
        let y := x * power
        if y.isInfinite then none else some y
      else some (x / power)
    else if x.numEq .zero then some x
    else if 0 ≤ e then none
    else scale steps (x / Binary64.ofDecimal false 1 308) (e + 308)

/-- The floating-point number with given digits and exponent of ten. Two divisions by the largest
power bring any number to zero. -/
def floatOf (negative : Bool) (digits : Nat) (e : Int) : Option Json :=
  (scale 4 (.ofNat digits) e).map fun x => float (if negative then -x else x)

/-- An exponent held to 32 bits. -/
def heldExponent (e : Int) : Int := Binary64.saturate Int32.minValue.toInt Int32.maxValue.toInt e

/-- The number that a text denotes. -/
def NumberText.value? (t : NumberText) : Option Json :=
  let (whole, taken) := appendDigits largestUInt64 0 t.whole
  let dropped := t.whole.length - taken
  let (digits, after) := appendDigits largestUInt64 whole (t.fraction.getD [])
  let e : Int := (dropped : Int) - after
  match t.exponent with
  | some (below, exponentDigits) =>
    let (n, read) := appendDigits largestInt32 0 exponentDigits
    if read < exponentDigits.length then
      if digits ≠ 0 && !below then none
      else some (float (if t.negative then .negativeZero else .zero))
    else floatOf t.negative digits (heldExponent (if below then e - n else e + n))
  | none =>
    if t.fraction.isSome || 0 < dropped then floatOf t.negative digits e
    else if !t.negative then some (int digits)
    else if digits = 0 || 0x8000000000000000 < digits then some (float (-(Binary64.ofNat digits)))
    else some (int (-(digits : Int)))

end FlowRuns.Json
