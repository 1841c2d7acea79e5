import FlowRuns.Proofs.Binary64.ExactSum
import FlowRuns.Proofs.Stats.Accuracy
import FlowRuns.Proofs.Stats.OneDate

/-!
# The order of the runs

The extremes of some runs are the same in whatever order the runs come. The means are sums that are rounded at
every step, so their last digits depend on the order, and what is rounded up from them may differ by a whole
second. That takes an exact mean within a hair of a whole number of seconds, and sums that do not come out
exactly on the way. The weighted mean depends on the order of the runs of one date only.

* `Stats.SameValue`, `Stats.held_perm` — the extremes, and what is held between them.
* `Stats.dates_perm`, `Stats.durationsOn_perm`, `Stats.recencyWeightedMean_congr` — dates in another order of the
  runs.
* `Stats.NearMean`, `Stats.NearWeightedMean` — what the means are within a hair of, in every order.
* `Stats.MeanSettled`, `Stats.WeightedMeanSettled` — what keeps the means from depending on the order.
* `Reordered`, `runTimeStats_reordered` — **the snapshot.**
-/

namespace FlowRuns

namespace Stats

open Binary64 (toRat unit PartsExact)

/-! ## The extremes -/

/-- Two finite numbers of one value. They differ in the sign of a zero at most. -/
structure SameValue (x y : Binary64) : Prop where
  /-- the one is finite -/
  left : x.isFinite = true
  /-- the other is finite -/
  right : y.isFinite = true
  /-- their value -/
  value : x.toRat = y.toRat

namespace SameValue

variable {x y : Binary64}

theorem position (h : SameValue x y) : x.position = y.position := by
  have hunits : (Binary64.unitsPerOne : ℚ) ≠ 0 := Nat.cast_ne_zero.2 Binary64.unitsPerOne_pos.ne'
  have hvalue := h.value
  rw [Binary64.toRat_eq_position h.left, Binary64.toRat_eq_position h.right] at hvalue
  exact Int.cast_injective ((div_left_inj' hunits).1 hvalue)

theorem ceilInt64 (h : SameValue x y) : x.ceilInt64 = y.ceilInt64 := by
  rw [ceilInt64_eq_ofInt h.left, ceilInt64_eq_ofInt h.right, h.value]

/-- They compare alike with anything. -/
theorem lt (h : SameValue x y) (z : Binary64) :
    Binary64.lt x z = Binary64.lt y z ∧ Binary64.lt z x = Binary64.lt z y := by
  have hx := Binary64.isNaN_of_isFinite h.left
  have hy := Binary64.isNaN_of_isFinite h.right
  cases hz : z.isNaN with
  | true =>
    match z with
    | .nan => cases x <;> cases y <;> exact ⟨rfl, rfl⟩
    | .infinite _ => cases hz
    | .finite _ _ => cases hz
  | false =>
    constructor
    · rw [Bool.eq_iff_iff, Binary64.lt_iff hx hz, Binary64.lt_iff hy hz, h.position]
    · rw [Bool.eq_iff_iff, Binary64.lt_iff hz hx, Binary64.lt_iff hz hy, h.position]

end SameValue

/-- Bounds of the same values hold a number alike. -/
theorem clamp_congr {low low' high high' : Binary64} (hlow : SameValue low low') (hhigh : SameValue high high')
    (x : Binary64) :
    (clamp? low high x).map Binary64.ceilInt64 = (clamp? low' high' x).map Binary64.ceilInt64 := by
  have hle : DurationNumber.le low high = DurationNumber.le low' high' := by
    refine Bool.eq_iff_iff.2 ((Binary64.le_iff_toRat hlow.left hhigh.left).trans ?_)
    rw [hlow.value, hhigh.value]
    exact (Binary64.le_iff_toRat hlow.right hhigh.right).symm
  have hbelow : DurationNumber.lt x low = DurationNumber.lt x low' := (hlow.lt x).2
  have habove : DurationNumber.lt high x = DurationNumber.lt high' x := (hhigh.lt x).1
  rw [clamp?, clamp?, hle, hbelow, habove]
  split
  · rw [Option.map_some, Option.map_some]
    refine congrArg some ?_
    split
    · exact hlow.ceilInt64
    · split
      · exact hhigh.ceilInt64
      · rfl
  · rfl

section Extremes

variable {ds ds' : List Binary64}

/-- A search among finite numbers finds the same value in whatever order they come, if the choice between two
values is one of an order. -/
theorem sameValue_foldl {pick : Binary64 → Binary64 → Binary64} {pickValue : ℚ → ℚ → ℚ}
    [RightCommutative pickValue] (hpick : ∀ x y : Binary64, x.isFinite = true → y.isFinite = true →
      (pick x y).isFinite = true ∧ (pick x y).toRat = pickValue x.toRat y.toRat)
    (hds : ∀ d ∈ ds, d.isFinite = true) (hperm : ds.Perm ds') {start : Binary64}
    (hstart : start.isFinite = true) : SameValue (ds.foldl pick start) (ds'.foldl pick start) := by
  obtain ⟨hleft, hvalue⟩ := Binary64.toRat_foldl hpick ds hds hstart
  obtain ⟨hright, hvalue'⟩ :=
    Binary64.toRat_foldl hpick ds' (fun d hd => hds d (hperm.mem_iff.2 hd)) hstart
  refine ⟨hleft, hright, ?_⟩
  rw [hvalue, hvalue', (hperm.map toRat).foldl_eq]

/-- **The extremes do not depend on the order.** -/
theorem extremes_perm (hds : ∀ d ∈ ds, d.isFinite = true) (hperm : ds.Perm ds') :
    SameValue (longest ds) (longest ds') ∧ SameValue (shortest ds) (shortest ds') :=
  ⟨sameValue_foldl (fun _ _ => Binary64.toRat_maxNum) hds hperm rfl,
    sameValue_foldl (fun _ _ => Binary64.toRat_minNum) hds hperm rfl⟩

/-- What is held between the extremes does not depend on the order either. -/
theorem held_perm (hds : ∀ d ∈ ds, d.isFinite = true) (hperm : ds.Perm ds') (x : Binary64) :
    held ds x = held ds' x := by
  obtain ⟨hlongest, hshortest⟩ := extremes_perm hds hperm
  exact clamp_congr hshortest hlongest x

/-- All durations lie between the extremes. -/
theorem extremes_bounds (hds : ∀ d ∈ ds, d.isFinite = true) :
    (shortest ds).isFinite = true ∧ (longest ds).isFinite = true ∧
      ∀ d ∈ ds, (shortest ds).toRat ≤ d.toRat ∧ d.toRat ≤ (longest ds).toRat := by
  obtain ⟨⟨hlongest, -, -⟩, ⟨hshortest, -, -⟩⟩ := extremes_perm hds (List.Perm.refl ds)
  refine ⟨hshortest, hlongest, fun d hd => ?_⟩
  have hnum := Binary64.isNaN_of_isFinite (hds d hd)
  obtain ⟨hlow, hhigh⟩ := position_between_extremes hd hnum
  obtain ⟨hmax, hmin⟩ := extremes_are_numbers ds
  exact ⟨(Binary64.le_iff_toRat hshortest (hds d hd)).1 ((Binary64.le_iff hmin hnum).2 hlow),
    (Binary64.le_iff_toRat (hds d hd) hlongest).1 ((Binary64.le_iff hnum hmax).2 hhigh)⟩

/-- **A number near to a value** that lies between the extremes gives a figure within a hair of the value. -/
theorem withinHair_held {x : Binary64} {k : ℕ} {c v : ℚ} (hds : ∀ d ∈ ds, d.isFinite = true)
    (hbetween : ∀ low high : ℚ, (∀ d ∈ ds.map toRat, low ≤ d ∧ d ≤ high) → low ≤ v ∧ v ≤ high)
    (hnear : Binary64.Near k c (2 ^ 63) v x) (hv : 0 ≤ v) (hc : 0 ≤ c) :
    ∃ figure, held ds x = some figure ∧ WithinHair k c v figure := by
  obtain ⟨hshortest, hlongest, hbounds⟩ := extremes_bounds hds
  exact withinHair_clamp hshortest hlongest (hbetween _ _ (List.forall_mem_map.2 hbounds)) hnear le_rfl hv hc

end Extremes

/-! ## Dates -/

section Dates

variable {α : Type} {samples samples' : List (Sample α)}

/-- The dates do not depend on the order of the runs. -/
theorem dates_perm (hperm : samples.Perm samples') : dates samples = dates samples' := by
  have hnodup (l : List (Sample α)) : (dates l).Nodup :=
    pairwise_dates.imp fun {a b} (hlt : a < b) (heq : a = b) => Date.lt_irrefl b (heq ▸ hlt)
  have hmem (d : Date) : d ∈ dates samples ↔ d ∈ dates samples' := by
    rw [mem_dates, mem_dates]
    exact exists_congr fun s => and_congr_left' hperm.mem_iff
  refine List.Perm.eq_of_pairwise (fun a b _ _ hab hba => ?_) pairwise_dates pairwise_dates
    ((List.perm_ext_iff_of_nodup (hnodup samples) (hnodup samples')).2 hmem)
  exact absurd (Date.lt_trans hab hba) (Date.lt_irrefl a)

theorem durationsOn_perm (hperm : samples.Perm samples') (d : Date) :
    (durationsOn samples d).Perm (durationsOn samples' d) :=
  (hperm.filter _).map Prod.snd

/-- **The weighted mean** depends on the dates and their means only, in whatever arithmetic. -/
theorem recencyWeightedMean_congr [DurationNumber α] (hdates : dates samples = dates samples')
    (hmeans : ∀ d ∈ dates samples, dateMean samples d = dateMean samples' d) :
    recencyWeightedMean samples = recencyWeightedMean samples' := by
  rw [recencyWeightedMean_eq, recencyWeightedMean_eq, weightedMeanFormula, weightedMeanFormula,
    List.map_congr_left hmeans, hdates]

end Dates

/-! ## The means -/

/-- A figure within a hair of the exact mean of some durations. -/
def NearMean (ds : List Binary64) (figure : Int64) : Prop :=
  WithinHair (ds.length + 1) (unit / 2) (exactMean (ds.map toRat)) figure

/-- A figure within a hair of the exact weighted mean of some runs. -/
def NearWeightedMean (samples : List (Sample Binary64)) (figure : Int64) : Prop :=
  WithinHair (samples.length + (dates samples).length + 3) unit (recencyWeightedMean (samples.map exactly)) figure

/-- What keeps the mean of some durations from depending on their order: only the last sum has to be rounded,
or no whole number of seconds is within a hair of the exact mean. -/
def MeanSettled (ds : List Binary64) : Prop :=
  PartsExact ds ∨ ds.length < 2 ^ 26 ∧ ClearOfWhole (ds.length + 1) (unit / 2) (exactMean (ds.map toRat))

/-- What keeps the weighted mean from depending on the order of the runs: of each date only the last sum has to
be rounded, or no whole number of seconds is within a hair of the exact weighted mean. -/
def WeightedMeanSettled (samples : List (Sample Binary64)) : Prop :=
  (∀ d ∈ dates samples, PartsExact (durationsOn samples d)) ∨
    samples.length < 2 ^ 26 ∧ ClearOfWhole (samples.length + (dates samples).length + 3) unit
      (recencyWeightedMean (samples.map exactly))

/-- If only the last sum has to be rounded of all durations, so it is of those of one date. -/
theorem settled_of_partsExact {samples : List (Sample Binary64)} (h : PartsExact (samples.map Prod.snd)) :
    MeanSettled (samples.map Prod.snd) ∧ WeightedMeanSettled samples :=
  ⟨.inl h, .inl fun _ _ => h.subperm ((List.filter_sublist.map Prod.snd).subperm)⟩

theorem exactMean_perm {ds ds' : List ℚ} (hperm : ds.Perm ds') : exactMean ds = exactMean ds' := by
  rw [exactMean, exactMean, hperm.sum_eq, hperm.length_eq]

section Mean

variable {ds ds' : List Binary64}

/-- **The figure of the mean** is within a hair of the exact mean. -/
theorem nearMean_held (hds : Timed ds) (hne : ds ≠ []) (hlen : ds.length < 2 ^ 26) {figure : Int64}
    (h : held ds (mean ds) = some figure) : NearMean ds figure := by
  have hnear := near_mean true hds hne hlen (show (2 : ℚ) ^ 63 ≤ 2 ^ 128 by norm_num)
  rw [← Binary64.negativeZero, ← mean_eq_div] at hnear
  obtain ⟨figure', hfigure, hwithin⟩ := withinHair_held hds.isFinite
    (fun low high hbounds => exactMean_between (mt List.map_eq_nil_iff.1 hne) hbounds) hnear
    hds.exactMean_nonneg (half_pos Binary64.unit_pos).le
  obtain rfl := Option.some.inj (h.symm.trans hfigure)
  exact hwithin

theorem nearMean_perm (hperm : ds.Perm ds') {figure : Int64} : NearMean ds figure ↔ NearMean ds' figure := by
  rw [NearMean, NearMean, hperm.length_eq, exactMean_perm (hperm.map toRat)]

/-- **The mean does not depend on the order** if it is settled. -/
theorem held_mean_perm (hds : Timed ds) (hne : ds ≠ []) (hperm : ds.Perm ds') (hsettled : MeanSettled ds)
    {figure figure' : Int64} (h : held ds (mean ds) = some figure)
    (h' : held ds' (mean ds') = some figure') : figure = figure' := by
  obtain hparts | ⟨hlen, hclear⟩ := hsettled
  · -- a mean begins with negative zero, and sums of that kind are known from zero on
    rw [← held_zero_add, zero_add_mean] at h h'
    rw [Binary64.foldl_add_perm hds hparts hperm, hperm.length_eq, held_perm hds.isFinite hperm, h'] at h
    exact (Option.some.inj h).symm
  · have hne' : ds' ≠ [] := fun hnil => hne (List.Perm.eq_nil (hnil ▸ hperm))
    have hnear := nearMean_held hds hne hlen h
    have hnear' := (nearMean_perm hperm).2 (nearMean_held (hds.perm hperm) hne' (hperm.length_eq ▸ hlen) h')
    have hunit := (half_pos Binary64.unit_pos).le
    rw [hnear.eq_of_clear hds.exactMean_nonneg hunit hclear,
      hnear'.eq_of_clear hds.exactMean_nonneg hunit hclear]

end Mean

section WeightedMean

variable {samples samples' : List (Sample Binary64)}

/-- **The figure of the weighted mean** is within a hair of the exact one. -/
theorem nearWeightedMean_held (hds : Timed (samples.map Prod.snd)) (hne : samples ≠ [])
    (hlen : samples.length < 2 ^ 26) {figure : Int64}
    (h : held (samples.map Prod.snd) (recencyWeightedMean samples) = some figure) :
    NearWeightedMean samples figure := by
  have hnear := near_recencyWeightedMean hds hne hlen (show (2 : ℚ) ^ 63 ≤ 2 ^ 64 by norm_num)
  obtain ⟨figure', hfigure, hwithin⟩ := withinHair_held hds.isFinite (fun low high hbounds => by
      rw [recencyWeightedMean_eq_exactWeightedMean]
      exact (exactMeans_between (mt List.map_eq_nil_iff.1 hne) (durations_exactly ▸ hbounds)).2) hnear
    (recencyWeightedMean_exactly_nonneg hds) Binary64.unit_pos.le
  obtain rfl := Option.some.inj (h.symm.trans hfigure)
  exact hwithin

/-- Runs of one date whose sum is rounded once have one mean in whatever order. -/
theorem dateMean_perm (hds : Timed (samples.map Prod.snd)) (hperm : samples.Perm samples') {d : Date}
    (hparts : PartsExact (durationsOn samples d)) : dateMean samples d = dateMean samples' d := by
  have hdate := durationsOn_perm hperm d
  rw [dateMean_eq, dateMean_eq, Binary64.foldl_add_perm (hds.durationsOn d) hparts hdate, hdate.length_eq]

/-- The exact weighted mean does not depend on the order. -/
theorem recencyWeightedMean_exactly_perm (hperm : samples.Perm samples') :
    recencyWeightedMean (samples.map exactly) = recencyWeightedMean (samples'.map exactly) := by
  refine recencyWeightedMean_congr (dates_perm (hperm.map exactly)) fun d _ => ?_
  rw [dateMean_eq_exactMean, dateMean_eq_exactMean]
  exact exactMean_perm (durationsOn_perm (hperm.map exactly) d)

theorem nearWeightedMean_perm (hperm : samples.Perm samples') {figure : Int64} :
    NearWeightedMean samples figure ↔ NearWeightedMean samples' figure := by
  rw [NearWeightedMean, NearWeightedMean, hperm.length_eq, dates_perm hperm,
    recencyWeightedMean_exactly_perm hperm]

/-- **The weighted mean does not depend on the order** if it is settled. -/
theorem held_weightedMean_perm (hds : Timed (samples.map Prod.snd)) (hne : samples ≠ [])
    (hperm : samples.Perm samples') (hsettled : WeightedMeanSettled samples) {figure figure' : Int64}
    (h : held (samples.map Prod.snd) (recencyWeightedMean samples) = some figure)
    (h' : held (samples'.map Prod.snd) (recencyWeightedMean samples') = some figure') : figure = figure' := by
  have hdurations := hperm.map Prod.snd
  obtain hparts | ⟨hlen, hclear⟩ := hsettled
  · rw [recencyWeightedMean_congr (dates_perm hperm) fun d hd => dateMean_perm hds hperm (hparts d hd),
      held_perm hds.isFinite hdurations, h'] at h
    exact (Option.some.inj h).symm
  · have hne' : samples' ≠ [] := fun hnil => hne (List.Perm.eq_nil (hnil ▸ hperm))
    have hnear := nearWeightedMean_held hds hne hlen h
    have hnear' := (nearWeightedMean_perm hperm).2
      (nearWeightedMean_held (hds.perm hdurations) hne' (hperm.length_eq ▸ hlen) h')
    have hpos := recencyWeightedMean_exactly_nonneg hds
    rw [hnear.eq_of_clear hpos Binary64.unit_pos.le hclear, hnear'.eq_of_clear hpos Binary64.unit_pos.le hclear]

end WeightedMean

end Stats

open Stats

/-- **The means of a snapshot** are within a hair of the exact ones. -/
theorem near_computed {runs : List Run} (hne : runs ≠ []) (hds : Timed (runs.map Run.totalRunTime))
    (hlen : runs.length < 2 ^ 26) {s : RunTimeStats} (hs : computeRunTimeStats? runs = some s) :
    NearMean (runs.map Run.totalRunTime) s.avg ∧ NearWeightedMean (runs.map Run.sample) s.weightedAvg := by
  obtain ⟨havg, hweighted⟩ := means_of_computed hne hs
  refine ⟨nearMean_held hds (mt List.map_eq_nil_iff.1 hne) (by rwa [List.length_map]) havg, ?_⟩
  rw [← durations_eq] at hweighted hds
  exact nearWeightedMean_held hds (mt List.map_eq_nil_iff.1 hne) (by rwa [List.length_map]) hweighted

/-- **What the snapshots of some runs in two orders have in common.** -/
structure Reordered (runs runs' : List Run) (s s' : RunTimeStats) : Prop where
  /-- the longest run time -/
  max : s.max = s'.max
  /-- the shortest run time -/
  min : s.min = s'.min
  /-- the mean, if it is settled -/
  avg : MeanSettled (runs.map Run.totalRunTime) → s.avg = s'.avg
  /-- the weighted mean, if it is settled -/
  weightedAvg : WeightedMeanSettled (runs.map Run.sample) → s.weightedAvg = s'.weightedAvg
  /-- the weighted mean, if the runs of each date keep their order -/
  byDate : (∀ d, durationsOn (runs.map Run.sample) d = durationsOn (runs'.map Run.sample) d) →
    s.weightedAvg = s'.weightedAvg
  /-- in any case, what both are within a hair of -/
  near : runs ≠ [] → runs.length < 2 ^ 26 →
    (NearMean (runs.map Run.totalRunTime) s.avg ∧ NearMean (runs.map Run.totalRunTime) s'.avg) ∧
      NearWeightedMean (runs.map Run.sample) s.weightedAvg ∧
      NearWeightedMean (runs.map Run.sample) s'.weightedAvg

/-- **The order of the runs.** Some runs whose durations are finite and not negative have a snapshot in every
order. The longest and the shortest run time are the same in every order. So is the mean if only the last sum
has to be rounded, whichever durations come last, or if no whole number of seconds is within a hair of the exact
mean; and the weighted mean if that is so of every date or of the exact weighted mean, and also if the runs of
each date keep their order. In every order the means are within a hair of the exact ones. -/
theorem runTimeStats_reordered {runs runs' : List Run} (hperm : runs.Perm runs')
    (hds : Timed (runs.map Run.totalRunTime)) :
    ∃ s s', computeRunTimeStats? runs = some s ∧ computeRunTimeStats? runs' = some s' ∧
      Reordered runs runs' s s' := by
  -- no runs are no runs in every order
  obtain rfl | hne := eq_or_ne runs []
  · obtain rfl := hperm.nil_eq
    exact ⟨.noRuns, .noRuns, rfl, rfl, rfl, rfl, fun _ => rfl, fun _ => rfl, fun _ => rfl,
      fun hne => absurd rfl hne⟩
  have hne' : runs' ≠ [] := fun h => hne (List.Perm.eq_nil (h ▸ hperm))
  have hsomeNumber : ∃ r ∈ runs, r.totalRunTime.isNaN = false := by
    obtain ⟨r, hr⟩ := List.exists_mem_of_ne_nil runs hne
    exact ⟨r, hr, Binary64.isNaN_of_isFinite (hds.isFinite _ (List.mem_map_of_mem hr))⟩
  obtain ⟨s, hs⟩ := exists_computed hsomeNumber
  obtain ⟨s', hs'⟩ := exists_computed (hsomeNumber.imp fun r => And.imp_left hperm.mem_iff.1)
  obtain ⟨havg, hweighted⟩ := means_of_computed hne hs
  obtain ⟨havg', hweighted'⟩ := means_of_computed hne' hs'
  obtain ⟨hmax, hmin⟩ := extremes_of_computed hne hs
  obtain ⟨hmax', hmin'⟩ := extremes_of_computed hne' hs'
  have hdurations := hperm.map Run.totalRunTime
  have hsamples := hperm.map Run.sample
  rw [durations_eq] at hmax hmin hmax' hmin'
  obtain ⟨hlongest, hshortest⟩ := extremes_perm hds.isFinite hdurations
  refine ⟨s, s', hs, hs', ?_, ?_, ?_, ?_, ?_, ?_⟩
  · rw [hmax, hmax', hlongest.ceilInt64]
  · rw [hmin, hmin', hshortest.ceilInt64]
  · exact fun hsettled => held_mean_perm hds (mt List.map_eq_nil_iff.1 hne) hdurations hsettled havg havg'
  · intro hsettled
    rw [← durations_eq] at hweighted hweighted' hds
    exact held_weightedMean_perm hds (mt List.map_eq_nil_iff.1 hne) hsamples hsettled hweighted hweighted'
  · -- then every date has the same durations, in the same order, and so the same mean
    intro hkept
    have hmeans (d : Date) : dateMean (runs.map Run.sample) d = dateMean (runs'.map Run.sample) d := by
      rw [dateMean, dateMean, hkept]
    rw [recencyWeightedMean_congr (dates_perm hsamples) fun d _ => hmeans d,
      held_perm hds.isFinite hdurations, hweighted'] at hweighted
    exact (Option.some.inj hweighted).symm
  · intro _ hlen
    obtain ⟨hnear, hnearWeighted⟩ := near_computed hne hds hlen hs
    obtain ⟨hnear', hnearWeighted'⟩ := near_computed hne' (hds.perm hdurations) (hperm.length_eq ▸ hlen) hs'
    exact ⟨⟨hnear, (nearMean_perm hdurations).2 hnear'⟩, hnearWeighted,
      (nearWeightedMean_perm hsamples).2 hnearWeighted'⟩

/-- Three runs on two days, with durations in quarters of a second, and the same the other way round. -/
theorem runTimeStats_reordered_quarters :
    let run (day : Int) (quarters : Nat) : Run := { (default : Run) with
      startTime := ⟨day * 86400, 0⟩, totalRunTime := Binary64.div (.ofNat quarters) (.ofNat 4) }
    let runs := [run 1 11, run 2 3, run 1 2]
    (runs.Perm runs.reverse ∧ Timed (runs.map Run.totalRunTime)) ∧
      (MeanSettled (runs.map Run.totalRunTime) ∧ WeightedMeanSettled (runs.map Run.sample)) ∧
      ∃ s s', computeRunTimeStats? runs = some s ∧ computeRunTimeStats? runs.reverse = some s' ∧
        Reordered runs runs.reverse s s' ∧ s.avg = s'.avg ∧ s.weightedAvg = s'.weightedAvg := by
  intro run runs
  have hperm : runs.Perm runs.reverse := (List.reverse_perm runs).symm
  have hds : Timed (runs.map Run.totalRunTime) := by decide +kernel
  have hquarter : (2 : ℚ) ^ 1072 * Binary64.unit = 1 / 4 := by decide +kernel
  have hquarters : ∀ r ∈ runs, ∃ n : ℕ, r.totalRunTime.toRat = n * (2 ^ 1072 * Binary64.unit) := by
    rw [hquarter]
    refine List.forall_mem_cons.2 ⟨⟨11, ?_⟩, List.forall_mem_cons.2 ⟨⟨3, ?_⟩, List.forall_mem_singleton.2 ⟨2, ?_⟩⟩⟩
    all_goals decide +kernel
  have hparts : Binary64.PartsExact ((runs.map Run.sample).map Prod.snd) := by
    rw [durations_eq]
    refine Binary64.partsExact_of_multiples (by decide) (List.forall_mem_map.2 hquarters) ?_
    rw [hquarter]
    decide +kernel
  obtain ⟨hmean, hweighted⟩ := settled_of_partsExact hparts
  rw [durations_eq] at hmean
  obtain ⟨s, s', hs, hs', hsame⟩ := runTimeStats_reordered hperm hds
  exact ⟨⟨hperm, hds⟩, ⟨hmean, hweighted⟩, s, s', hs, hs', hsame, hsame.avg hmean, hsame.weightedAvg hweighted⟩

/-- **The means depend on the order.** A tenth, two tenths and 27 tenths of a second add up to three seconds in
this order, and to a little more the other way round. -/
theorem not_runTimeStats_perm_tenths : ¬ ∀ runs runs' : List Run, runs.Perm runs' →
    Timed (runs.map Run.totalRunTime) → computeRunTimeStats? runs = computeRunTimeStats? runs' := by
  intro hall
  let run (tenths : Nat) : Run :=
    { (default : Run) with totalRunTime := Binary64.div (.ofNat tenths) (.ofNat 10) }
  have hforth : computeRunTimeStats? [run 1, run 2, run 27] = some ⟨3, 1, 1, 1⟩ := by decide +kernel
  have hback : computeRunTimeStats? [run 27, run 2, run 1] = some ⟨3, 1, 2, 2⟩ := by decide +kernel
  have hds : Timed ([run 1, run 2, run 27].map Run.totalRunTime) := by decide +kernel
  have hsame := hall [run 1, run 2, run 27] [run 27, run 2, run 1]
    (List.reverse_perm [run 27, run 2, run 1]) hds
  rw [hforth, hback] at hsame
  exact absurd hsame (by decide)

end FlowRuns
