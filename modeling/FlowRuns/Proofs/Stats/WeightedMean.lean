import FlowRuns.Proofs.Binary64.Value
import FlowRuns.Proofs.Stats.Bounds
import FlowRuns.Proofs.Stats.Exact

/-!
# The weighted mean, date by date

The weighted mean is computed by way of buckets that grow as the runs come. It is the formula of the dates
`d₁ < … < d_N` and the mean durations `a₁, …, a_N` of their runs, evaluated step by step in binary floating
point. In exact arithmetic the formula is the weighted mean with weights `1, …, N`, and the four figures are
the greatest and the least duration, the mean and that weighted mean, each of them rounded up.

* `Stats.WeighedByDate` — what is computed, as a formula of dates and durations.
* `Stats.ExactFigures` — what the four figures are in exact arithmetic.
* `Stats.weighedByDate`, `Stats.exactFigures` — the one holds of all runs, the other of all durations that
  lie between the ends of the format.
* `Stats.recencyWeightedMean_byDate` — **both, for all runs.**
-/

namespace FlowRuns

/-- What exact arithmetic sees of a duration on a date. -/
def Stats.exactly (s : Sample Binary64) : Sample ℚ := (s.1, s.2.toRat)

/-- What exact arithmetic sees of a run. -/
def Run.exactSample (r : Run) : Sample ℚ := Stats.exactly r.sample

/-- A snapshot of whole seconds, each of them kept in the range of 64 bits. -/
def RunTimeStats.ofSeconds (t : RunTimes Int) : RunTimeStats :=
  t.map fun n => Int64.ofInt (Binary64.saturate Int64.minValue.toInt Int64.maxValue.toInt n)

namespace Stats

/-- **The weighted mean by dates**: with the dates on which the runs started, the oldest first, and the mean
durations of their runs, it is `((0 + 1·a₁) + 2·a₂ + … + N·a_N) / (1 + 2 + … + N)`. -/
structure WeighedByDate (runs : List Run) (ds : List Date) : Prop where
  /-- each date stands there once, the oldest first -/
  ascending : ds.Pairwise (· < ·)
  /-- a date stands there if a run started on it -/
  mem_iff : ∀ d, d ∈ ds ↔ ∃ r ∈ runs, r.startDate = d
  /-- the formula, each operation rounded -/
  computed : recencyWeightedMean (runs.map Run.sample) = Binary64.div
    (((ds.map (dateMean (runs.map Run.sample))).zipIdx 1).foldl
      (fun sum a => Binary64.add sum (Binary64.mul (.ofNat a.2) a.1)) .zero)
    ((List.range' 2 (ds.length - 1)).foldl (fun sum n => Binary64.add sum (.ofNat n)) (.ofNat 1))

/-- **The four figures in exact arithmetic**, over durations on some dates, the oldest first. -/
structure ExactFigures (samples : List (Sample ℚ)) (ds : List Date) (t : RunTimes ℚ) : Prop where
  /-- the longest duration is the greatest one -/
  max : IsGreatest {d | d ∈ samples.map Prod.snd} t.max
  /-- the shortest is the least one -/
  min : IsLeast {d | d ∈ samples.map Prod.snd} t.min
  /-- the mean of all durations -/
  avg : t.avg = exactMean (samples.map Prod.snd)
  /-- the weighted mean of the means of the dates -/
  weightedAvg : t.weightedAvg = exactWeightedMean ds fun d => exactMean (durationsOn samples d)
  /-- the formula gives the weighted mean -/
  computed : recencyWeightedMean samples = t.weightedAvg
  /-- the figures are what is computed: the clamps change nothing -/
  figures : figures? samples = some t
  /-- and they are rounded up -/
  rounded : exactRunTimes? samples = some (t.map Int.ceil)
  /-- if durations are in the range of 64 bits, nothing is lost when the figures are kept in it -/
  kept : (∀ d ∈ samples.map Prod.snd, (Int64.minValue.toInt : ℚ) ≤ d ∧ d ≤ Int64.maxValue.toInt) →
    (RunTimeStats.ofSeconds (t.map Int.ceil)).map Int64.toInt = t.map Int.ceil

/-! ## The formula -/

/-- The sum of the weights may begin with the first of them. -/
theorem foldl_weights {means : List Binary64} (hne : means ≠ []) :
    (means.zipIdx 1).foldl (fun sum a => Binary64.add sum (.ofNat a.2)) .zero =
      (List.range' 2 (means.length - 1)).foldl (fun sum n => Binary64.add sum (.ofNat n)) (.ofNat 1) := by
  have hfirst : Binary64.add .zero (.ofNat 1) = .ofNat 1 := by decide +kernel
  obtain ⟨a, rest, rfl⟩ := List.exists_cons_of_ne_nil hne
  rw [List.zipIdx_cons, List.foldl_cons, hfirst, List.length_cons, Nat.add_sub_cancel,
    ← List.zipIdx_map_snd, List.foldl_map]

theorem weighedByDate {runs : List Run} (hne : runs ≠ []) :
    WeighedByDate runs (dates (runs.map Run.sample)) where
  ascending := pairwise_dates
  mem_iff d := by
    rw [mem_dates]
    simp only [List.mem_map, exists_exists_and_eq_and, Run.sample]
  computed := by
    have hmeans : (dates (runs.map Run.sample)).map (dateMean (runs.map Run.sample)) ≠ [] := by
      obtain ⟨r, hr⟩ := List.exists_mem_of_ne_nil runs hne
      have hdate := mem_dates.2 ⟨r.sample, List.mem_map_of_mem hr, rfl⟩
      exact List.ne_nil_of_mem (List.mem_map_of_mem hdate)
    have hweights := foldl_weights hmeans
    rw [List.length_map] at hweights
    rw [recencyWeightedMean_eq, ← hweights]
    rfl

/-! ## The four figures -/

/-- Whole seconds between two bounds are kept if the bounds are in the range of 64 bits. -/
theorem toInt_ofInt_saturate {n : Int} (h : Int64.minValue.toInt ≤ n ∧ n ≤ Int64.maxValue.toInt) :
    (Int64.ofInt (Binary64.saturate Int64.minValue.toInt Int64.maxValue.toInt n)).toInt = n := by
  have hsame : Binary64.saturate Int64.minValue.toInt Int64.maxValue.toInt n = n := by
    rw [Binary64.saturate, if_neg (Int.not_lt.2 h.1), if_neg (Int.not_lt.2 h.2)]
  rw [hsame]
  exact Int64.toInt_ofInt_of_le h.1 (by simpa [Int64.maxValue] using Int.lt_add_one_of_le h.2)

theorem exactFigures {samples : List (Sample ℚ)} (hne : samples ≠ [])
    (h : ∀ d ∈ samples.map Prod.snd, -Rat.largestBinary64 ≤ d ∧ d ≤ Rat.largestBinary64) :
    ∃ t, ExactFigures samples (dates samples) t := by
  have hfigures := figures_exact hne h
  have hmax := isGreatest_longest (mt List.map_eq_nil_iff.1 hne) fun d hd => (h d hd).1
  have hmin := isLeast_shortest (mt List.map_eq_nil_iff.1 hne) fun d hd => (h d hd).2
  refine ⟨_, hmax, hmin, rfl, rfl, recencyWeightedMean_eq_exactWeightedMean, hfigures, ?_, ?_⟩
  · have hceil : Rat.ceil = Int.ceil := funext Rat.ceil_eq_intCeil
    rw [exactRunTimes?, if_neg (by simpa using hne), hfigures, Option.map_some, hceil]
  · intro hbounds
    obtain ⟨hmean, hweighted⟩ := exactMeans_between hne hbounds
    have hkept : ∀ {x : ℚ}, (Int64.minValue.toInt : ℚ) ≤ x ∧ x ≤ Int64.maxValue.toInt →
        (Int64.ofInt (Binary64.saturate Int64.minValue.toInt Int64.maxValue.toInt ⌈x⌉)).toInt = ⌈x⌉ :=
      fun hx => toInt_ofInt_saturate
        ⟨Int.cast_le.1 (hx.1.trans (Int.le_ceil _)), Int.ceil_le.2 hx.2⟩
    simp only [RunTimeStats.ofSeconds, RunTimes.map, hkept (hbounds _ hmax.1), hkept (hbounds _ hmin.1),
      hkept hmean, hkept hweighted]

/-! ## For all runs -/

section Samples

variable {samples : List (Sample Binary64)}

/-- The dates are what they are in exact arithmetic. -/
theorem dates_exactly : dates (samples.map exactly) = dates samples := by
  rw [dates, dates, List.foldl_map]
  rfl

theorem durations_exactly :
    (samples.map exactly).map Prod.snd = (samples.map Prod.snd).map Binary64.toRat := by
  rw [List.map_map, List.map_map]
  rfl

theorem durationsOn_exactly (d : Date) :
    durationsOn (samples.map exactly) d = (durationsOn samples d).map Binary64.toRat := by
  rw [durationsOn, durationsOn, List.filter_map, List.map_map, List.map_map]
  rfl

end Samples

theorem map_exactSample (runs : List Run) :
    runs.map Run.exactSample = (runs.map Run.sample).map exactly := by
  rw [List.map_map]
  rfl

/-- The longest and the shortest duration are found exactly. -/
theorem extremes_exactSample {runs : List Run} (h : ∀ r ∈ runs, r.totalRunTime.isFinite = true) :
    let ds := (runs.map Run.sample).map Prod.snd
    let exact := (runs.map Run.exactSample).map Prod.snd
    ((longest ds).isFinite = true ∧ (longest ds).toRat = longest exact) ∧
      (shortest ds).isFinite = true ∧ (shortest ds).toRat = shortest exact := by
  intro ds exact
  have hfinite : ∀ d ∈ ds, d.isFinite = true := by
    simpa only [ds, List.map_map, List.forall_mem_map, Function.comp_apply, Run.sample] using h
  have hexact : exact = ds.map Binary64.toRat := by
    simp only [exact, ds, map_exactSample, durations_exactly]
  have hlowest : Binary64.lowest.isFinite = true := rfl
  have hlargest : Binary64.largest.isFinite = true := rfl
  have hmax := Binary64.toRat_foldl (fun x y => Binary64.toRat_maxNum) ds hfinite hlowest
  have hmin := Binary64.toRat_foldl (fun x y => Binary64.toRat_minNum) ds hfinite hlargest
  rw [Binary64.toRat_lowest] at hmax
  rw [Binary64.toRat_largest] at hmin
  rw [longest_eq, shortest_eq, hexact]
  exact ⟨hmax, hmin⟩

/-- The extremes among the figures are what the searches find. -/
theorem extremes_of_figures {α : Type} [DurationNumber α] {samples : List (Sample α)} {t : RunTimes α}
    (h : figures? samples = some t) :
    t.max = longest (samples.map Prod.snd) ∧ t.min = shortest (samples.map Prod.snd) := by
  rw [figures?] at h
  split at h
  next => cases h; exact ⟨rfl, rfl⟩
  next => cases h

/-- The extremes of a snapshot are what the searches find, rounded up. -/
theorem extremes_of_computed {runs : List Run} (hne : runs ≠ []) {s : RunTimeStats}
    (h : computeRunTimeStats? runs = some s) :
    let ds := (runs.map Run.sample).map Prod.snd
    s.max = (longest ds).ceilInt64 ∧ s.min = (shortest ds).ceilInt64 := by
  rw [computeRunTimeStats?, if_neg (by simpa using hne), Option.map_eq_some_iff] at h
  obtain ⟨t, ht, rfl⟩ := h
  obtain ⟨hmax, hmin⟩ := extremes_of_figures ht
  exact ⟨congrArg Binary64.ceilInt64 hmax, congrArg Binary64.ceilInt64 hmin⟩

/-- What is rounded up to 64 bits is what is rounded up and kept in the range of 64 bits. -/
theorem ceilInt64_eq_ofInt {x : Binary64} (h : x.isFinite = true) :
    x.ceilInt64 = Int64.ofInt (Binary64.saturate Int64.minValue.toInt Int64.maxValue.toInt ⌈x.toRat⌉) := by
  rw [← Binary64.toInt_ceilInt64_of_isFinite h, Int64.ofInt_toInt]

/-- **The weighted mean, date by date.** For all runs, on whatever dates and in whatever order, it is the
formula of the dates and the mean durations, each operation rounded. If all durations are finite, the figures
that exact arithmetic gives are the extremes, the mean and the weighted mean of the dates with the weights
`1, …, N`, rounded up, and the clamps have no part in them. The extremes of the snapshot are those: a search
rounds nothing. -/
theorem recencyWeightedMean_byDate {runs : List Run} (hne : runs ≠ []) :
    ∃ ds, WeighedByDate runs ds ∧
      ((∀ r ∈ runs, r.totalRunTime.isFinite = true) →
        ∃ t s, ExactFigures (runs.map Run.exactSample) ds t ∧ computeRunTimeStats? runs = some s ∧
          s.max = (RunTimeStats.ofSeconds (t.map Int.ceil)).max ∧
          s.min = (RunTimeStats.ofSeconds (t.map Int.ceil)).min) := by
  refine ⟨_, weighedByDate hne, fun hfinite => ?_⟩
  have hexact : ∃ t, ExactFigures (runs.map Run.exactSample) (dates (runs.map Run.sample)) t := by
    rw [← dates_exactly, ← map_exactSample]
    refine exactFigures (mt List.map_eq_nil_iff.1 hne) fun d hd => ?_
    obtain ⟨s, hs, rfl⟩ := List.mem_map.1 hd
    obtain ⟨r, -, rfl⟩ := List.mem_map.1 hs
    exact r.totalRunTime.toRat_bounds
  obtain ⟨t, ht⟩ := hexact
  have hcomputed : computeRunTimeStats? runs ≠ none := by
    intro hnone
    obtain ⟨r, hr⟩ := List.exists_mem_of_ne_nil runs hne
    have hnan := (computeRunTimeStats_eq_none_iff hne).1 hnone r hr
    rw [Binary64.isNaN_of_isFinite (hfinite r hr)] at hnan
    cases hnan
  obtain ⟨s, hs⟩ := Option.ne_none_iff_exists'.1 hcomputed
  obtain ⟨hsmax, hsmin⟩ := extremes_of_computed hne hs
  obtain ⟨⟨hmaxFinite, hmax⟩, hminFinite, hmin⟩ := extremes_exactSample hfinite
  obtain ⟨htmax, htmin⟩ := extremes_of_figures ht.figures
  refine ⟨t, s, ht, hs, ?_, ?_⟩
  · rw [hsmax, ceilInt64_eq_ofInt hmaxFinite, hmax, ← htmax]
    rfl
  · rw [hsmin, ceilInt64_eq_ofInt hminFinite, hmin, ← htmin]
    rfl

/-- Three runs on two days, the earlier day between: the means of the days are 5 and 10 seconds, so the
mean is rounded up from `20 / 3` and the weighted mean from `25 / 3`. -/
theorem recencyWeightedMean_byDate_interleaved :
    let run (day : Int) (seconds : Nat) : Run :=
      { (default : Run) with startTime := ⟨day * 86400, 0⟩, totalRunTime := .ofNat seconds }
    let runs := [run 1 4, run 2 10, run 1 6]
    (runs ≠ [] ∧ ∀ r ∈ runs, r.totalRunTime.isFinite = true) ∧
      computeRunTimeStats? runs = some ⟨10, 4, 7, 9⟩ ∧
      ∃ ds, WeighedByDate runs ds ∧ ∃ t s, ExactFigures (runs.map Run.exactSample) ds t ∧
        computeRunTimeStats? runs = some s ∧
        s.max = (RunTimeStats.ofSeconds (t.map Int.ceil)).max ∧
        s.min = (RunTimeStats.ofSeconds (t.map Int.ceil)).min := by
  intro run runs
  have hne : runs ≠ [] := List.cons_ne_nil _ _
  have hfinite : ∀ r ∈ runs, r.totalRunTime.isFinite = true := by decide +kernel
  have hstats : computeRunTimeStats? runs = some ⟨10, 4, 7, 9⟩ := by decide +kernel
  obtain ⟨ds, hds, hfigures⟩ := recencyWeightedMean_byDate hne
  exact ⟨⟨hne, hfinite⟩, hstats, ds, hds, hfigures hfinite⟩

end Stats

end FlowRuns
