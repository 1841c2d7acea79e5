import Mathlib.Algebra.BigOperators.Fin
import Mathlib.Algebra.Order.BigOperators.Group.List
import Mathlib.Algebra.Order.BigOperators.Ring.Finset
import Mathlib.Algebra.Order.Field.Basic
import Mathlib.Data.Rat.Floor
import Mathlib.Tactic.Positivity
import FlowRuns.Proofs.Stats.Grouping

/-!
# Statistics in exact arithmetic

With rational numbers nothing is rounded before the end. The search for the longest and the shortest
duration finds them, as long as all durations lie between the numbers where it begins; the means are means;
and means lie between the extremes, so that the clamps have nothing to do.

* `Stats.exactMean`, `Stats.exactWeightedMean` — the two means, as sums over indices.
* `Stats.exactMean_between`, `Stats.exactWeightedMean_between`, `Stats.exactMeans_between` — **means lie
  between bounds.**
* `Stats.isGreatest_longest`, `Stats.isLeast_shortest` — the extremes.
* `Stats.mean_eq_exactMean`, `Stats.recencyWeightedMean_eq_exactWeightedMean` — what is computed.
* `Stats.figures_exact` — **the four figures.**
-/

namespace FlowRuns

theorem Rat.ceil_eq_intCeil (q : ℚ) : q.ceil = ⌈q⌉ :=
  eq_of_forall_ge_iff fun _ => Rat.ceil_le_iff.trans Int.ceil_le.symm

namespace Stats

/-! ## Means -/

/-- The mean of some durations. -/
def exactMean (durations : List ℚ) : ℚ := durations.sum / durations.length

/-- The weighted mean of what is found for each of some dates: the first date has weight 1, the last one as
much as there are dates. -/
def exactWeightedMean (ds : List Date) (average : Date → ℚ) : ℚ :=
  (∑ i : Fin ds.length, ((i : ℚ) + 1) * average ds[i]) / ∑ i : Fin ds.length, ((i : ℚ) + 1)

variable {low high : ℚ}

/-- **The mean** of durations between two bounds lies between them. -/
theorem exactMean_between {durations : List ℚ} (hne : durations ≠ [])
    (h : ∀ d ∈ durations, low ≤ d ∧ d ≤ high) :
    low ≤ exactMean durations ∧ exactMean durations ≤ high := by
  have hcount : (0 : ℚ) < durations.length := Nat.cast_pos.2 (List.length_pos_iff.2 hne)
  have hlow := durations.card_nsmul_le_sum low fun d hd => (h d hd).1
  have hhigh := durations.sum_le_card_nsmul high fun d hd => (h d hd).2
  rw [nsmul_eq_mul, mul_comm] at hlow hhigh
  exact ⟨(le_div_iff₀ hcount).2 hlow, (div_le_iff₀ hcount).2 hhigh⟩

/-- **The weighted mean** of averages between two bounds lies between them, whatever the weights. -/
theorem exactWeightedMean_between {ds : List Date} {average : Date → ℚ} (hne : ds ≠ [])
    (h : ∀ d ∈ ds, low ≤ average d ∧ average d ≤ high) :
    low ≤ exactWeightedMean ds average ∧ exactWeightedMean ds average ≤ high := by
  have hweight (i : Fin ds.length) : (0 : ℚ) < (i : ℚ) + 1 := by positivity
  have hsome : (Finset.univ : Finset (Fin ds.length)).Nonempty :=
    ⟨⟨0, List.length_pos_iff.2 hne⟩, Finset.mem_univ _⟩
  have hsum : (0 : ℚ) < ∑ i : Fin ds.length, ((i : ℚ) + 1) :=
    Finset.sum_pos (fun i _ => hweight i) hsome
  have hat (i : Fin ds.length) := h ds[i] (List.getElem_mem i.isLt)
  constructor
  · rw [exactWeightedMean, le_div_iff₀ hsum, mul_comm, Finset.sum_mul]
    exact Finset.sum_le_sum fun i _ => mul_le_mul_of_nonneg_left (hat i).1 (hweight i).le
  · rw [exactWeightedMean, div_le_iff₀ hsum, mul_comm, Finset.sum_mul]
    exact Finset.sum_le_sum fun i _ => mul_le_mul_of_nonneg_left (hat i).2 (hweight i).le

variable {samples : List (Sample ℚ)}

/-- **Both means** of some runs lie between all bounds of their durations. -/
theorem exactMeans_between (hne : samples ≠ []) (h : ∀ d ∈ samples.map Prod.snd, low ≤ d ∧ d ≤ high) :
    (low ≤ exactMean (samples.map Prod.snd) ∧ exactMean (samples.map Prod.snd) ≤ high) ∧
      low ≤ exactWeightedMean (dates samples) (fun d => exactMean (durationsOn samples d)) ∧
      exactWeightedMean (dates samples) (fun d => exactMean (durationsOn samples d)) ≤ high := by
  obtain ⟨s, hs⟩ := List.exists_mem_of_ne_nil samples hne
  have hdates : dates samples ≠ [] := List.ne_nil_of_mem (mem_dates.2 ⟨s, hs, rfl⟩)
  refine ⟨exactMean_between (mt List.map_eq_nil_iff.1 hne) h,
    exactWeightedMean_between hdates fun d hd => ?_⟩
  exact exactMean_between (durationsOn_ne_nil hd) fun x hx => h x (mem_of_mem_durationsOn hx)

/-! ## What is computed -/

theorem foldl_add_eq_sum (durations : List ℚ) (start : ℚ) :
    durations.foldl (DurationNumber.add (α := ℚ)) start = start + durations.sum := by
  induction durations generalizing start with
  | nil => rw [List.foldl_nil, List.sum_nil, add_zero]
  | cons d durations ih =>
    rw [List.foldl_cons, ih, List.sum_cons, ← add_assoc]
    rfl

theorem mean_eq_exactMean (durations : List ℚ) : mean durations = exactMean durations := by
  have hsum := foldl_add_eq_sum durations 0
  rw [zero_add] at hsum
  exact congrArg (· / (durations.length : ℚ)) hsum

theorem dateMean_eq_exactMean (d : Date) : dateMean samples d = exactMean (durationsOn samples d) :=
  mean_eq_exactMean (durationsOn samples d)

/-- A sum over a list whose elements are numbered from `k` on. -/
theorem foldl_zipIdx_eq_sum {β : Type} (term : ℕ → β → ℚ) (l : List β) (k : ℕ) (start : ℚ) :
    (l.zipIdx k).foldl (fun sum a => sum + term a.2 a.1) start =
      start + ∑ i : Fin l.length, term (k + i) l[i] := by
  induction l generalizing k start with
  | nil => simp
  | cons b l ih =>
    have hsum : ∑ i : Fin (b :: l).length, term (k + i) (b :: l)[i] =
        term k b + ∑ i : Fin l.length, term (k + 1 + i) l[i] := by
      change ∑ i : Fin (l.length + 1), term (k + i) (b :: l)[i] = _
      rw [Fin.sum_univ_succ]
      simp only [Fin.val_zero, Fin.val_succ, add_zero, Fin.getElem_fin, List.getElem_cons_zero,
        List.getElem_cons_succ, add_assoc, add_comm 1]
    rw [List.zipIdx_cons, List.foldl_cons, ih, hsum, add_assoc]

/-- **The weighted mean** that is computed is that of the means of the dates. -/
theorem recencyWeightedMean_eq_exactWeightedMean : recencyWeightedMean samples =
    exactWeightedMean (dates samples) fun d => exactMean (durationsOn samples d) := by
  have hweighted := foldl_zipIdx_eq_sum (fun n d => (n : ℚ) * exactMean (durationsOn samples d))
    (dates samples) 1 0
  have hweights := foldl_zipIdx_eq_sum (fun n _ => (n : ℚ)) (dates samples) 1 0
  rw [zero_add] at hweighted hweights
  simp only [Nat.cast_add, Nat.cast_one, add_comm (1 : ℚ)] at hweighted hweights
  rw [recencyWeightedMean_eq, weightedMeanFormula, exactWeightedMean, ← hweighted, ← hweights,
    List.zipIdx_map, List.foldl_map, List.foldl_map]
  simp only [Prod.map_fst, Prod.map_snd, id_eq, dateMean_eq_exactMean]
  rfl

/-! ## Extremes -/

theorem greater_eq_max (x y : ℚ) : DurationNumber.greater x y = max x y := (max_def_lt x y).symm

theorem lesser_eq_min (x y : ℚ) : DurationNumber.lesser x y = min x y := by
  rw [min_comm]
  exact (min_def_lt y x).symm

/-- A search for the greatest finds it among those searched and the one where it begins. -/
theorem isGreatest_foldl_max {κ : Type} [LinearOrder κ] (ds : List κ) (start : κ) :
    IsGreatest {d | d = start ∨ d ∈ ds} (ds.foldl max start) := by
  induction ds generalizing start with
  | nil => exact ⟨.inl rfl, fun d hd => hd.elim le_of_eq fun h => absurd h List.not_mem_nil⟩
  | cons d ds ih =>
    obtain ⟨hfound, hbound⟩ := ih (max start d)
    rw [List.foldl_cons]
    refine ⟨?_, fun e he => ?_⟩
    · obtain hstart | hmem := hfound
      · rw [hstart]
        exact (max_choice start d).imp id fun h => List.mem_cons.2 (.inl h)
      · exact .inr (List.mem_cons_of_mem d hmem)
    · have hmax : max start d ≤ ds.foldl max (max start d) := hbound (.inl rfl)
      obtain rfl | he := he
      · exact (le_max_left e d).trans hmax
      · obtain rfl | he := List.mem_cons.1 he
        · exact (le_max_right start e).trans hmax
        · exact hbound (.inr he)

/-- The one where a search begins is found only if it is there: some other is not below it. -/
theorem isGreatest_of_foldl_max {κ : Type} [LinearOrder κ] {ds : List κ} {start : κ} (hne : ds ≠ [])
    (h : ∀ d ∈ ds, start ≤ d) : IsGreatest {d | d ∈ ds} (ds.foldl max start) := by
  obtain ⟨hfound, hbound⟩ := isGreatest_foldl_max ds start
  refine ⟨?_, fun d hd => hbound (.inr hd)⟩
  obtain hstart | hmem := hfound
  · obtain ⟨d, hd⟩ := List.exists_mem_of_ne_nil ds hne
    have heq : d = ds.foldl max start := le_antisymm (hbound (.inr hd)) (hstart.trans_le (h d hd))
    rw [← heq]
    exact hd
  · exact hmem

variable {durations : List ℚ}

theorem longest_eq : longest durations = durations.foldl max (-Rat.largestBinary64) := by
  rw [longest, show DurationNumber.greater (α := ℚ) = max from funext₂ greater_eq_max]
  rfl

theorem shortest_eq : shortest durations = durations.foldl min Rat.largestBinary64 := by
  rw [shortest, show DurationNumber.lesser (α := ℚ) = min from funext₂ lesser_eq_min]
  rfl

/-- **The longest duration.** -/
theorem isGreatest_longest (hne : durations ≠ []) (h : ∀ d ∈ durations, -Rat.largestBinary64 ≤ d) :
    IsGreatest {d | d ∈ durations} (longest durations) := by
  rw [longest_eq]
  exact isGreatest_of_foldl_max hne h

/-- **The shortest duration.** -/
theorem isLeast_shortest (hne : durations ≠ []) (h : ∀ d ∈ durations, d ≤ Rat.largestBinary64) :
    IsLeast {d | d ∈ durations} (shortest durations) := by
  rw [shortest_eq]
  -- the order read downwards
  exact isGreatest_of_foldl_max (κ := ℚᵒᵈ) hne h

/-! ## The four figures -/

/-- What lies between two bounds is left alone by the clamps. -/
theorem clamp_eq_some {x : ℚ} (h : low ≤ x ∧ x ≤ high) : clamp? low high x = some x := by
  have hle : DurationNumber.le low high = true := decide_eq_true (h.1.trans h.2)
  have hlow : DurationNumber.lt x low = false := decide_eq_false h.1.not_gt
  have hhigh : DurationNumber.lt high x = false := decide_eq_false h.2.not_gt
  rw [clamp?, if_pos hle, hlow, hhigh]
  rfl

/-- **The four figures** over some runs: the extremes and the two means, which the clamps leave alone. -/
theorem figures_exact (hne : samples ≠ [])
    (h : ∀ d ∈ samples.map Prod.snd, -Rat.largestBinary64 ≤ d ∧ d ≤ Rat.largestBinary64) :
    figures? samples = some ⟨longest (samples.map Prod.snd), shortest (samples.map Prod.snd),
      exactMean (samples.map Prod.snd),
      exactWeightedMean (dates samples) fun d => exactMean (durationsOn samples d)⟩ := by
  have hds : samples.map Prod.snd ≠ [] := mt List.map_eq_nil_iff.1 hne
  have hlongest := isGreatest_longest hds fun d hd => (h d hd).1
  have hshortest := isLeast_shortest hds fun d hd => (h d hd).2
  obtain ⟨hmean, hweighted⟩ := exactMeans_between hne fun d hd => ⟨hshortest.2 hd, hlongest.2 hd⟩
  rw [figures?, recencyWeightedMean_eq_exactWeightedMean, mean_eq_exactMean, clamp_eq_some hweighted,
    clamp_eq_some hmean]

end Stats

end FlowRuns
