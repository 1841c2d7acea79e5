import FlowRuns.Defaults
import FlowRuns.Status

/-!
# Run-time statistics

Four figures about how long runs took: the longest, the shortest, the mean, and the mean that
weights recent dates more. A snapshot holds them in whole seconds.

* `RunTimes α` — the four figures, of any type of number.
* `RunTimeStats` — the snapshot: signed 64-bit integers.
* `RunTimeStats.toJson`, `RunTimeStats.decoder` — its form beside a dataflow: an object with four
  integer entries; reading also takes a sequence of the four integers.
* `StatsOptions` — which runs to consider.
-/

namespace FlowRuns

/-- The four figures. -/
structure RunTimes (α : Type) where
  /-- the longest run time -/
  max : α
  /-- the shortest run time -/
  min : α
  /-- the mean run time -/
  avg : α
  /-- the mean weighted by date, recent dates most -/
  weightedAvg : α
  deriving DecidableEq, Inhabited

/-- The same figures in another type of number. -/
def RunTimes.map {α β : Type} (f : α → β) (t : RunTimes α) : RunTimes β :=
  ⟨f t.max, f t.min, f t.avg, f t.weightedAvg⟩

/-- A snapshot in whole seconds. -/
abbrev RunTimeStats := RunTimes Int64

namespace RunTimeStats

/-- The snapshot over no runs. -/
def noRuns : RunTimeStats := ⟨noRunsFigure, noRunsFigure, noRunsFigure, noRunsFigure⟩

/-- Whether a snapshot differs from the one over no runs. -/
def hasRuns (s : RunTimeStats) : Bool := s != noRuns

/-- A figure in JSON. -/
def figure (n : Int64) : Json := .int n.toInt

/-- The snapshot as an object of its four figures, by ascending key. -/
def toJson (s : RunTimeStats) : Json :=
  .object [("avg_run_time", figure s.avg), ("max_run_time", figure s.max),
    ("min_run_time", figure s.min), ("wt_avg_run_time", figure s.weightedAvg)]

/-- The four figures in declaration order. -/
def record : Record RunTimeStats :=
  RunTimes.mk <$> .required "max_run_time" .int64 <*> .required "min_run_time" .int64
    <*> .required "avg_run_time" .int64 <*> .required "wt_avg_run_time" .int64

/-- Reads a snapshot. -/
def decoder : Decoder RunTimeStats := record.decoder "RunTimeStats"

/-- One line of the text for people. -/
def figureLine (key : String) (n : Int64) : String :=
  "  " ++ Json.stringText key ++ ": " ++ toString n.toInt

/-- The snapshot for people: one figure a line, in declaration order. -/
def lines (s : RunTimeStats) : List String :=
  ["\x7b", figureLine "max_run_time" s.max ++ ",", figureLine "min_run_time" s.min ++ ",",
    figureLine "avg_run_time" s.avg ++ ",", figureLine "wt_avg_run_time" s.weightedAvg, "\x7d"]

end RunTimeStats

/-- Which runs statistics consider: at most so many of the latest in certain states. -/
structure StatsOptions where
  /-- how many runs -/
  limit : UInt32
  /-- in which states -/
  statuses : List Status
  deriving DecidableEq

namespace StatsOptions

/-- The twenty latest completed runs. -/
def default : StatsOptions := ⟨defaultHistoryLimit, [.completed]⟩

instance : Inhabited StatsOptions := ⟨default⟩

/-- The same with another limit. -/
def withLimit (o : StatsOptions) (limit : UInt32) : StatsOptions := { o with limit }

/-- The same with other states. -/
def withStatuses (o : StatsOptions) (statuses : List Status) : StatsOptions := { o with statuses }

end StatsOptions

end FlowRuns
