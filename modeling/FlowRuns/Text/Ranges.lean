/-!
# Sets of characters as ranges of code points

A property of characters that a standard lists is written down as the list of its ranges, in
ascending order; membership is a search through that list. A function that moves characters about
is written down as the list of the runs of characters that it moves equally far.

* `Ranges` — a set of characters.
* `ShiftRun` — characters that are moved equally far.
-/

namespace FlowRuns.Text

/-- A set of characters: ranges of code points, both ends included. -/
abbrev Ranges := List (Nat × Nat)

/-- Whether a character lies in one of the ranges. -/
def Ranges.contains (ranges : Ranges) (c : Char) : Bool :=
  ranges.any fun r => r.1 ≤ c.toNat && c.toNat ≤ r.2

theorem Ranges.contains_iff {ranges : Ranges} {c : Char} :
    ranges.contains c = true ↔ ∃ r ∈ ranges, r.1 ≤ c.toNat ∧ c.toNat ≤ r.2 := by
  simp [Ranges.contains, List.any_eq_true]

/-- Characters at equal distances, and other characters that lie equally far from them. -/
structure ShiftRun where
  /-- the first code point -/
  first : Nat
  /-- the last code point -/
  last : Nat
  /-- the distance from one to the next -/
  step : Nat
  /-- how far above it the other character lies -/
  shift : Int

/-- Whether a character belongs to a run. -/
def ShiftRun.contains (r : ShiftRun) (c : Char) : Bool :=
  r.first ≤ c.toNat && c.toNat ≤ r.last && (c.toNat - r.first) % r.step == 0

/-- The other character, by the first run that a character belongs to. -/
def shifted? (runs : List ShiftRun) (c : Char) : Option Char :=
  (runs.find? (·.contains c)).map fun r => Char.ofNat ((c.toNat : Int) + r.shift).toNat

end FlowRuns.Text
