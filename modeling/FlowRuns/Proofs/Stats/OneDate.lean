import FlowRuns.Proofs.Binary64.Neutral
import FlowRuns.Proofs.Stats.Bounds
import FlowRuns.Proofs.Stats.Grouping

/-!
# Runs of one date

Where all runs started on one date, there is one bucket, its weight is one, and the weighted mean is the mean.
That the two are summed from different zeros shows in the sign of a zero at most, and no figure depends on
that.

* `Stats.recencyWeightedMean_of_oneDate` — the weighted mean, bit by bit.
* `Stats.clamp_zero_add` — the sign of a zero does not get past the clamps.
* `runTimeStats_of_oneDate` — **the snapshot.**
-/

namespace FlowRuns

namespace Stats

variable {samples : List (Sample Binary64)} {d : Date}

/-! ## One bucket -/

theorem dates_of_oneDate (hne : samples ≠ []) (hdate : ∀ s ∈ samples, s.1 = d) : dates samples = [d] := by
  induction samples using List.reverseRecOn with
  | nil => exact absurd rfl hne
  | append_singleton samples s ih =>
    have hs : s.1 = d := hdate s (by simp)
    rw [dates_concat, hs]
    by_cases hnil : samples = []
    · rw [hnil]
      rfl
    · rw [ih hnil fun t ht => hdate t (List.mem_append_left _ ht)]
      simp [insertDate, Date.lt_irrefl]

theorem durationsOn_of_oneDate (hdate : ∀ s ∈ samples, s.1 = d) :
    durationsOn samples d = samples.map Prod.snd := by
  rw [durationsOn, List.filter_eq_self.2 fun s hs => decide_eq_true (hdate s hs)]

/-- The mean as one sum and one division. -/
theorem mean_eq_div (ds : List Binary64) :
    mean ds = Binary64.div (ds.foldl Binary64.add .negativeZero) (.ofNat ds.length) := by
  rw [mean]
  rfl

/-- Which zero a mean begins with makes a difference only to the sign of a zero. -/
theorem zero_add_mean (ds : List Binary64) : Binary64.add .zero (mean ds) =
    Binary64.add .zero (Binary64.div (ds.foldl Binary64.add .zero) (.ofNat ds.length)) := by
  rw [Binary64.foldl_add_zero, Binary64.zero_add_div, mean_eq_div]

/-- **The weighted mean of one date** is the mean, added to zero. -/
theorem recencyWeightedMean_of_oneDate (hne : samples ≠ []) (hdate : ∀ s ∈ samples, s.1 = d) :
    recencyWeightedMean samples = Binary64.add .zero (mean (samples.map Prod.snd)) := by
  have hone : Binary64.add .zero (.ofNat 1) = .ofNat 1 := by decide +kernel
  have haverage : dateMean samples d = Binary64.div ((samples.map Prod.snd).foldl Binary64.add .zero)
      (.ofNat (samples.map Prod.snd).length) := by
    rw [dateMean, durationsOn_of_oneDate hdate]
    rfl
  calc recencyWeightedMean samples
      = Binary64.div (Binary64.add .zero (Binary64.mul (.ofNat 1) (dateMean samples d)))
          (Binary64.add .zero (.ofNat 1)) := by
        rw [recencyWeightedMean_eq, weightedMeanFormula, dates_of_oneDate hne hdate]
        simp only [List.map_cons, List.map_nil, List.zipIdx_cons, List.zipIdx_nil, List.foldl_cons,
          List.foldl_nil, DurationNumber.add, DurationNumber.mul, DurationNumber.div,
          DurationNumber.ofNat, DurationNumber.zero]
    _ = Binary64.add .zero (dateMean samples d) := by
        rw [hone, Binary64.one_mul, Binary64.div_one]
    _ = Binary64.add .zero (mean (samples.map Prod.snd)) := by
        rw [haverage, zero_add_mean]

/-! ## The clamps -/

section Clamps

variable (low high x : Binary64)

theorem lt_zero_add : Binary64.lt (Binary64.add .zero x) low = Binary64.lt x low ∧
    Binary64.lt high (Binary64.add .zero x) = Binary64.lt high x := by
  rw [Binary64.zero_add]
  split
  next hx =>
    subst hx
    constructor
    · cases low <;> simp [Binary64.lt, Binary64.zero, Binary64.negativeZero]
    · cases high <;> simp [Binary64.lt, Binary64.zero, Binary64.negativeZero]
  next => exact ⟨rfl, rfl⟩

theorem ceilInt64_zero_add : (Binary64.add .zero x).ceilInt64 = x.ceilInt64 := by
  rw [Binary64.zero_add]
  split
  next hx =>
    subst hx
    decide +kernel
  next => rfl

/-- **The sign of a zero** does not get past the clamps and the rounding to whole seconds. -/
theorem clamp_zero_add : (clamp? low high (Binary64.add .zero x)).map Binary64.ceilInt64 =
    (clamp? low high x).map Binary64.ceilInt64 := by
  obtain ⟨hbelow, habove⟩ := lt_zero_add low high x
  unfold clamp?
  split
  · simp only [Option.map_some, DurationNumber.lt, hbelow, habove]
    refine congrArg some ?_
    split
    · rfl
    · split
      · rfl
      · exact ceilInt64_zero_add x
  · rfl

end Clamps

theorem held_zero_add (ds : List Binary64) (x : Binary64) : held ds (Binary64.add .zero x) = held ds x :=
  clamp_zero_add _ _ x

end Stats

/-- **One date leaves nothing to weight.** For runs that all started on one date, unless no duration is a
number, the snapshot has the mean as its weighted mean. Both are the same number before they are rounded, bit
by bit, except that the weighted mean is never a negative zero; that is so for all durations, also where their
sum overflows or one of them is no number. -/
theorem runTimeStats_of_oneDate (runs : List Run) (hnum : ∃ r ∈ runs, r.totalRunTime.isNaN = false)
    (hdate : ∀ r ∈ runs, ∀ r' ∈ runs, r.startDate = r'.startDate) :
    let mean := Stats.mean (runs.map Run.totalRunTime)
    Stats.recencyWeightedMean (runs.map Run.sample) =
        (if mean = .negativeZero then .zero else mean) ∧
      ∃ s, computeRunTimeStats? runs = some s ∧ s.weightedAvg = s.avg := by
  intro mean
  obtain ⟨r, hr, -⟩ := id hnum
  have hne : runs ≠ [] := List.ne_nil_of_mem hr
  have hsamples : ∀ s ∈ runs.map Run.sample, s.1 = r.startDate := by
    rw [List.forall_mem_map]
    exact fun r' hr' => hdate r' hr' r hr
  have hmean := Stats.recencyWeightedMean_of_oneDate (mt List.map_eq_nil_iff.1 hne) hsamples
  rw [durations_eq] at hmean
  refine ⟨by rw [hmean, Binary64.zero_add], ?_⟩
  obtain ⟨s, hs⟩ := exists_computed hnum
  obtain ⟨havg, hweighted⟩ := means_of_computed hne hs
  rw [hmean, Stats.held_zero_add, havg] at hweighted
  exact ⟨s, hs, (Option.some.inj hweighted).symm⟩

/-- Two runs within a day that took so long that their sum overflows: both means are brought back to the
longest duration. -/
theorem runTimeStats_of_oneDate_overflow :
    let runs : List Run := [{ (default : Run) with startTime := ⟨0, 0⟩, totalRunTime := .largest },
      { (default : Run) with startTime := ⟨86399, 0⟩, totalRunTime := .largest }]
    (∃ r ∈ runs, r.totalRunTime.isNaN = false) ∧
      (∀ r ∈ runs, ∀ r' ∈ runs, r.startDate = r'.startDate) ∧
      Stats.recencyWeightedMean (runs.map Run.sample) = .infinite false ∧
      ∃ s, computeRunTimeStats? runs = some s ∧ s.weightedAvg = s.avg := by
  intro runs
  have hnum : ∃ r ∈ runs, r.totalRunTime.isNaN = false := ⟨_, List.mem_cons_self, rfl⟩
  have hdate : ∀ r ∈ runs, ∀ r' ∈ runs, r.startDate = r'.startDate := by decide
  have hoverflow : Stats.mean (runs.map Run.totalRunTime) = .infinite false := by decide +kernel
  obtain ⟨hmean, hstats⟩ := runTimeStats_of_oneDate runs hnum hdate
  rw [hoverflow] at hmean
  exact ⟨hnum, hdate, hmean, hstats⟩

end FlowRuns
