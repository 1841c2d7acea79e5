import FlowRuns.Run
import FlowRuns.Stats.Basic
import FlowRuns.Stats.Arithmetic

/-!
# Computing run-time statistics

From the runs considered, each a start date and a duration, to the four figures:

* the longest and the shortest duration;
* their mean, the sum taken in the order of the runs;
* the weighted mean: durations are averaged per start date, the dates are ranked from the oldest
  (weight 1) to the newest (weight `N`), and the weighted mean of those averages is taken.

Both means are then held between the shortest and the longest duration, which takes away what
rounding added. That is refused when the shortest is not below the longest: of binary
floating-point durations that happens when none of them is a number.

Every figure is rounded up to whole seconds at the end.
-/

namespace FlowRuns

/-- A run as statistics see it: the date on which it started and how long it took. -/
abbrev Sample (α : Type) := Date × α

/-- What statistics see of a run. -/
def Run.sample (r : Run) : Sample Binary64 := (r.startDate, r.totalRunTime)

namespace Stats

variable {α : Type} [DurationNumber α]

open DurationNumber

/-! ## Extremes and mean -/

/-- The longest duration. -/
def longest (durations : List α) : α := durations.foldl greater lowest

/-- The shortest duration. -/
def shortest (durations : List α) : α := durations.foldl lesser highest

/-- The mean, summed in order. -/
def mean (durations : List α) : α := div (durations.foldl add sumStart) (ofNat durations.length)

/-! ## The weighted mean -/

/-- The runs of one date: the sum of their durations, and how many they are. -/
structure Bucket (α : Type) where
  /-- the date -/
  date : Date
  /-- the sum of the durations -/
  total : α
  /-- how many runs -/
  count : Nat

/-- One more run of a bucket's date. -/
def Bucket.grow (b : Bucket α) (duration : α) : Bucket α :=
  { b with total := add b.total duration, count := b.count + 1 }

/-- The bucket of a date's first run. -/
def Bucket.single (date : Date) (duration : α) : Bucket α := ⟨date, add zero duration, 1⟩

/-- The mean duration of a date. -/
def Bucket.average (b : Bucket α) : α := div b.total (ofNat b.count)

/-- Puts a run into the bucket of its date; buckets stand in ascending order of their dates. -/
def place (s : Sample α) : List (Bucket α) → List (Bucket α)
  | [] => [.single s.1 s.2]
  | b :: rest =>
    if s.1 < b.date then .single s.1 s.2 :: b :: rest
    else if s.1 = b.date then b.grow s.2 :: rest
    else b :: place s rest

/-- The buckets of all runs, oldest date first. -/
def buckets (samples : List (Sample α)) : List (Bucket α) :=
  samples.foldl (fun bs s => place s bs) []

/-- The weighted sum of averages and the sum of the weights, the first average with weight
`rank`. -/
def weigh (rank : Nat) : α × α → List α → α × α
  | sums, [] => sums
  | (weighted, weights), a :: rest =>
    weigh (rank + 1) (add weighted (mul (ofNat rank) a), add weights (ofNat rank)) rest

/-- The weighted mean of averages, weights 1, 2, … in order. -/
def weightedMean (averages : List α) : α :=
  let (weighted, weights) := weigh 1 (zero, zero) averages
  div weighted weights

/-- The mean that weights recent dates more. -/
def recencyWeightedMean (samples : List (Sample α)) : α :=
  weightedMean ((buckets samples).map Bucket.average)

/-! ## The four figures -/

/-- A number held between two others; `none` unless the first is at most the second. -/
def clamp? (low high x : α) : Option α :=
  if le low high then some (if lt x low then low else if lt high x then high else x) else none

/-- The four figures over some runs, not yet rounded; `none` when the shortest duration is not at
most the longest. -/
def figures? (samples : List (Sample α)) : Option (RunTimes α) :=
  let durations := samples.map Prod.snd
  let max := longest durations
  let min := shortest durations
  match clamp? min max (recencyWeightedMean samples), clamp? min max (mean durations) with
  | some weightedAvg, some avg => some ⟨max, min, avg, weightedAvg⟩
  | _, _ => none

end Stats

/-- **Run-time statistics** over the runs considered: the snapshot over no runs if there are none,
`none` if no duration is a number. -/
def computeRunTimeStats? (runs : List Run) : Option RunTimeStats :=
  if runs.isEmpty then some .noRuns
  else (Stats.figures? (runs.map Run.sample)).map (RunTimes.map Binary64.ceilInt64)

/-- The same figures in exact arithmetic: `none` if there are no runs. -/
def exactRunTimes? (samples : List (Sample Rat)) : Option (RunTimes Int) :=
  if samples.isEmpty then none else (Stats.figures? samples).map (RunTimes.map Rat.ceil)

end FlowRuns
