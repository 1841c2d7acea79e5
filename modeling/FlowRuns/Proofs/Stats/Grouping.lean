import Mathlib.Data.List.Induction
import FlowRuns.Stats.Formula

/-!
# Runs by date

Runs are put into buckets one after another, and the buckets grow as they come. What has come about in the
end can be said date by date: the buckets stand for the dates on which runs started, each date once and in
ascending order, and the bucket of a date holds the runs of that date in the order in which they came. So
the weighted mean is what the formula says, in whatever arithmetic.

* `Stats.mem_dates`, `Stats.pairwise_dates` — **the dates** are those of the runs, each once, in order.
* `Stats.bucketOn` — what the runs of one date make.
* `Stats.place_bucketOn`, `Stats.buckets_eq` — **one more run**, and any number of them.
* `Stats.weigh_eq` — the weights go by the places of the dates.
* `Stats.recencyWeightedMean_eq` — the weighted mean is the formula.
-/

namespace FlowRuns

theorem Date.lt_irrefl (d : Date) : ¬ d < d := Int.lt_irrefl d.day

theorem Date.lt_trans {a b c : Date} (hab : a < b) (hbc : b < c) : a < c := Int.lt_trans hab hbc

/-- A date that is neither before another one nor the same is after it. -/
theorem Date.gt_of_not_lt_of_ne {a b : Date} (hlt : ¬ a < b) (hne : a ≠ b) : b < a := by
  rcases Int.lt_trichotomy a.day b.day with h | h | h
  · exact absurd h hlt
  · exact absurd (Date.ext h) hne
  · exact h

namespace Stats

variable {α : Type} {samples : List (Sample α)} {s : Sample α} {d e : Date} {ds : List Date}

/-! ## The dates -/

theorem mem_insertDate : e ∈ insertDate d ds ↔ e = d ∨ e ∈ ds := by
  induction ds with
  | nil => rw [insertDate, List.mem_singleton, or_iff_left List.not_mem_nil]
  | cons f ds ih =>
    rw [insertDate]
    split
    · exact List.mem_cons
    · split
      next heq => rw [List.mem_cons, heq, or_self_left]
      next => rw [List.mem_cons, ih, List.mem_cons, or_left_comm]

/-- A date that is put among ascending dates stands in order there. -/
theorem pairwise_insertDate (h : ds.Pairwise (· < ·)) : (insertDate d ds).Pairwise (· < ·) := by
  induction ds with
  | nil => exact List.pairwise_singleton _ d
  | cons f ds ih =>
    obtain ⟨hf, hds⟩ := List.pairwise_cons.1 h
    rw [insertDate]
    split
    next hlt =>
      refine List.pairwise_cons.2 ⟨fun e he => ?_, h⟩
      obtain rfl | he := List.mem_cons.1 he
      · exact hlt
      · exact Date.lt_trans hlt (hf e he)
    next hlt =>
      split
      next => exact h
      next hne =>
        refine List.pairwise_cons.2 ⟨fun e he => ?_, ih hds⟩
        obtain rfl | he := mem_insertDate.1 he
        · exact Date.gt_of_not_lt_of_ne hlt hne
        · exact hf e he

theorem dates_concat : dates (samples ++ [s]) = insertDate s.1 (dates samples) := by
  rw [dates, List.foldl_append]
  rfl

/-- The dates are those on which a run started. -/
theorem mem_dates : d ∈ dates samples ↔ ∃ s ∈ samples, s.1 = d := by
  induction samples using List.reverseRecOn with
  | nil => simp [dates]
  | append_singleton samples s ih =>
    rw [dates_concat, mem_insertDate, ih]
    simp only [List.mem_append, List.mem_singleton, or_and_right, exists_or, exists_eq_left]
    rw [or_comm, eq_comm (a := d)]

/-- They stand in ascending order, each of them once. -/
theorem pairwise_dates : (dates samples).Pairwise (· < ·) := by
  induction samples using List.reverseRecOn with
  | nil => exact List.Pairwise.nil
  | append_singleton samples s ih => exact dates_concat ▸ pairwise_insertDate ih

/-! ## The runs of one date -/

theorem durationsOn_concat : durationsOn (samples ++ [s]) d =
    durationsOn samples d ++ if s.1 = d then [s.2] else [] := by
  rw [durationsOn, List.filter_append, List.map_append, ← durationsOn]
  by_cases h : s.1 = d
  · rw [if_pos h, List.filter_cons_of_pos (by simpa only [decide_eq_true_eq] using h)]
    rfl
  · rw [if_neg h, List.filter_cons_of_neg (by simpa only [decide_eq_true_eq] using h)]
    rfl

theorem durationsOn_eq_nil (h : d ∉ dates samples) : durationsOn samples d = [] := by
  rw [durationsOn, List.map_eq_nil_iff, List.filter_eq_nil_iff]
  intro s hs heq
  exact h (mem_dates.2 ⟨s, hs, of_decide_eq_true heq⟩)

theorem durationsOn_ne_nil (h : d ∈ dates samples) : durationsOn samples d ≠ [] := by
  obtain ⟨s, hs, heq⟩ := mem_dates.1 h
  have hmem : s.2 ∈ durationsOn samples d :=
    List.mem_map_of_mem (List.mem_filter.2 ⟨hs, decide_eq_true heq⟩)
  exact List.ne_nil_of_mem hmem

theorem mem_of_mem_durationsOn {x : α} (h : x ∈ durationsOn samples d) :
    x ∈ samples.map Prod.snd := by
  obtain ⟨s, hs, rfl⟩ := List.mem_map.1 h
  exact List.mem_map_of_mem (List.mem_filter.1 hs).1

variable [DurationNumber α]

open DurationNumber

/-- The bucket of a date: the durations of its runs added up in order, and how many they are. -/
def bucketOn (samples : List (Sample α)) (d : Date) : Bucket α :=
  ⟨d, (durationsOn samples d).foldl add zero, (durationsOn samples d).length⟩

/-- A run of another date does not concern a bucket. -/
theorem bucketOn_concat_of_ne (h : s.1 ≠ d) : bucketOn (samples ++ [s]) d = bucketOn samples d := by
  rw [bucketOn, durationsOn_concat, if_neg h, List.append_nil, bucketOn]

/-- A run of its own date makes a bucket grow. -/
theorem bucketOn_concat_self : bucketOn (samples ++ [s]) s.1 = (bucketOn samples s.1).grow s.2 := by
  rw [bucketOn, durationsOn_concat, if_pos rfl, List.foldl_append, List.length_append]
  rfl

/-- The first run of a date makes a bucket. -/
theorem bucketOn_concat_new (h : durationsOn samples s.1 = []) :
    bucketOn (samples ++ [s]) s.1 = .single s.1 s.2 := by
  rw [bucketOn, durationsOn_concat, if_pos rfl, h]
  rfl

/-! ## The buckets -/

/-- **One more run** goes into the bucket of its date, where the buckets stand for ascending dates that
include those of all runs before. -/
theorem place_bucketOn (hds : ds.Pairwise (· < ·)) (hnew : s.1 ∉ ds → durationsOn samples s.1 = []) :
    place s (ds.map (bucketOn samples)) = (insertDate s.1 ds).map (bucketOn (samples ++ [s])) := by
  -- of the buckets that are there, only that of the date itself is touched
  have untouched : ∀ es : List Date, s.1 ∉ es →
      es.map (bucketOn samples) = es.map (bucketOn (samples ++ [s])) := fun es hes =>
    List.map_congr_left fun e he =>
      (bucketOn_concat_of_ne fun heq => hes (heq ▸ he)).symm
  induction ds with
  | nil =>
    rw [List.map_nil, place, insertDate, List.map_singleton, bucketOn_concat_new (hnew List.not_mem_nil)]
  | cons f ds ih =>
    obtain ⟨hf, hds⟩ := List.pairwise_cons.1 hds
    have hfirst : s.1 ≤ f → s.1 ∉ ds := fun hle hmem => by
      have hlt := hf s.1 hmem
      rw [Date.le_def] at hle
      rw [Date.lt_def] at hlt
      omega
    rw [List.map_cons, place, insertDate]
    change (if s.1 < f then _ else if s.1 = f then _ else _) = _
    split
    next hlt =>
      have hmem : s.1 ∉ f :: ds := by
        rw [List.mem_cons, not_or]
        exact ⟨fun heq => Date.lt_irrefl f (heq ▸ hlt), hfirst (Int.le_of_lt hlt)⟩
      rw [List.map_cons, bucketOn_concat_new (hnew hmem), ← untouched _ hmem, List.map_cons]
    next hlt =>
      split
      next heq =>
        subst heq
        rw [List.map_cons, bucketOn_concat_self, untouched _ (hfirst (Int.le_refl _))]
      next hne =>
        have hrest := ih hds fun hmem => hnew fun h => (List.mem_cons.1 h).elim hne hmem
        rw [hrest, List.map_cons, bucketOn_concat_of_ne hne]

/-- **The buckets** of all runs stand for their dates. -/
theorem buckets_eq : buckets samples = (dates samples).map (bucketOn samples) := by
  induction samples using List.reverseRecOn with
  | nil => rfl
  | append_singleton samples s ih =>
    have hplaced : buckets (samples ++ [s]) = place s (buckets samples) := by
      rw [buckets, List.foldl_append]
      rfl
    rw [hplaced, ih, dates_concat, place_bucketOn pairwise_dates durationsOn_eq_nil]

/-! ## The weighted mean -/

/-- Averages are weighted by their places, the first one with `rank`. -/
theorem weigh_eq (rank : Nat) (weighted weights : α) (averages : List α) :
    weigh rank (weighted, weights) averages =
      ((averages.zipIdx rank).foldl (fun sum a => add sum (mul (ofNat a.2) a.1)) weighted,
        (averages.zipIdx rank).foldl (fun sum a => add sum (ofNat a.2)) weights) := by
  induction averages generalizing rank weighted weights with
  | nil => rfl
  | cons a averages ih => rw [weigh, ih, List.zipIdx_cons, List.foldl_cons, List.foldl_cons]

/-- **The weighted mean is the formula**, in whatever arithmetic. -/
theorem recencyWeightedMean_eq : recencyWeightedMean samples = weightedMeanFormula samples := by
  have haverages : (buckets samples).map Bucket.average = (dates samples).map (dateMean samples) := by
    rw [buckets_eq, List.map_map]
    rfl
  rw [recencyWeightedMean, haverages, weightedMean, weigh_eq]
  rfl

end Stats

end FlowRuns
