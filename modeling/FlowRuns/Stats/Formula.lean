import FlowRuns.Stats.Compute

/-!
# The weighted mean as a formula

The same weighted mean, said without buckets: let `d₁ < … < d_N` be the distinct start dates, and
`aᵢ` the durations of the runs of `dᵢ`, added up in the order of the runs, over their number. The
weighted mean is `(0 + 1·a₁ + … + N·a_N) / (0 + 1 + … + N)`.
-/

namespace FlowRuns.Stats

variable {α : Type} [DurationNumber α]

open DurationNumber

/-- Puts a date at its place among ascending dates, once. -/
def insertDate (d : Date) : List Date → List Date
  | [] => [d]
  | e :: rest =>
    if d < e then d :: e :: rest else if d = e then e :: rest else e :: insertDate d rest

/-- The distinct dates of some runs in ascending order. -/
def dates (samples : List (Sample α)) : List Date :=
  samples.foldl (fun ds s => insertDate s.1 ds) []

/-- The durations of the runs of one date, in order. -/
def durationsOn (samples : List (Sample α)) (d : Date) : List α :=
  (samples.filter fun s => s.1 = d).map Prod.snd

/-- The mean duration of one date. -/
def dateMean (samples : List (Sample α)) (d : Date) : α :=
  div ((durationsOn samples d).foldl add zero) (ofNat (durationsOn samples d).length)

/-- The weighted mean of the means of all dates. -/
def weightedMeanFormula (samples : List (Sample α)) : α :=
  let means := (dates samples).map (dateMean samples)
  div ((means.zipIdx 1).foldl (fun sum a => add sum (mul (ofNat a.2) a.1)) zero)
    ((means.zipIdx 1).foldl (fun sum a => add sum (ofNat a.2)) zero)

end FlowRuns.Stats
