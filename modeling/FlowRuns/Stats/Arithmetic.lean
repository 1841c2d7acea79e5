import FlowRuns.Binary64.Basic

/-!
# Numbers that statistics are computed with

Statistics add, multiply, divide and compare durations. They are written once, over any type of
number with these operations:

* `Binary64` — what the program computes with, each step rounded;
* `Rat` — exact rational numbers, the measure of what the rounded figures approximate.

Both keep between the same least and greatest number, from which a search for the greatest and the
least duration begins.
-/

namespace FlowRuns

/-- The operations on durations that statistics need. -/
class DurationNumber (α : Type) where
  /-- a count as a duration -/
  ofNat : Nat → α
  /-- where the sum of a date begins -/
  zero : α
  /-- where the sum of all durations begins: adding a duration to it gives that duration -/
  sumStart : α
  /-- addition -/
  add : α → α → α
  /-- multiplication -/
  mul : α → α → α
  /-- division -/
  div : α → α → α
  /-- the least finite number -/
  lowest : α
  /-- the greatest finite number -/
  highest : α
  /-- the greater of two -/
  greater : α → α → α
  /-- the lesser of two -/
  lesser : α → α → α
  /-- `x < y` -/
  lt : α → α → Bool
  /-- `x ≤ y` -/
  le : α → α → Bool

instance : DurationNumber Binary64 where
  ofNat := Binary64.ofNat
  zero := .zero
  sumStart := .negativeZero
  add := Binary64.add
  mul := Binary64.mul
  div := Binary64.div
  lowest := .lowest
  highest := .largest
  greater := Binary64.maxNum
  lesser := Binary64.minNum
  lt := Binary64.lt
  le := Binary64.le

/-- The greatest finite binary floating-point number, exactly. -/
def Rat.largestBinary64 : Rat := (Magnitude.largest.units / Binary64.unitsPerOne : Nat)

instance : DurationNumber Rat where
  ofNat n := n
  zero := 0
  sumStart := 0
  add := (· + ·)
  mul := (· * ·)
  div := (· / ·)
  lowest := -Rat.largestBinary64
  highest := Rat.largestBinary64
  greater x y := if x < y then y else x
  lesser x y := if y < x then y else x
  lt x y := x < y
  le x y := x ≤ y

end FlowRuns
