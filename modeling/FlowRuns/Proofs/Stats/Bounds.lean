import FlowRuns.Proofs.Binary64.Sign
import FlowRuns.Stats.Compute

/-!
# Both means stay between the extremes

The figures over some runs are refused exactly when no duration is a number, and otherwise both means
stand between the shortest and the longest duration, after rounding up too. A mean that rounding or
an overflow has carried away is brought back by the clamps. They do not bring back a mean that is no
number, which is counted as zero seconds; then durations stood on both sides of zero, and zero is
between the extremes as well.

* `Stats.signOwed_mean`, `Stats.signOwed_recencyWeightedMean` — what the sign of each mean is owed to.
* `Stats.clamp_between` — what the clamps give.
* `Stats.figures_eq_none_iff` — when the figures are refused.
* `runTimeStats_between_extremes` — all of it, for the snapshot.
-/

namespace FlowRuns

open Binary64 (SignOwed Positive)

namespace Stats

/-! ## The sign of the means -/

section Means

variable {below above : Prop}

theorem signOwed_foldl_add {ds : List Binary64} (hds : ∀ d ∈ ds, SignOwed below above d)
    {start : Binary64} (hstart : SignOwed below above start) :
    SignOwed below above (ds.foldl Binary64.add start) := by
  induction ds generalizing start with
  | nil => exact hstart
  | cons d rest ih =>
    exact ih (fun e he => hds e (List.mem_cons_of_mem _ he))
      (hstart.add (hds d List.mem_cons_self))

/-- The sign of the mean is owed to durations of that sign. -/
theorem signOwed_mean {ds : List Binary64} (hds : ∀ d ∈ ds, SignOwed below above d)
    (hne : ds ≠ []) (hlen : ds.length < UInt64.size) : SignOwed below above (mean ds) := by
  have hcount : Positive (Binary64.ofNat ds.length) :=
    Binary64.positive_ofNat (List.length_pos_iff.2 hne) (Nat.le_of_lt hlen)
  exact (signOwed_foldl_add hds (SignOwed.zero true)).div_positive hcount

/-- What holds of a bucket among those of `n` runs. -/
structure BucketSound (below above : Prop) (n : Nat) (b : Bucket Binary64) : Prop where
  /-- its sum has a sign that is owed -/
  total : SignOwed below above b.total
  /-- it holds a run -/
  count_pos : 0 < b.count
  /-- it holds no more runs than there are -/
  count_le : b.count ≤ n

theorem BucketSound.mono {n m : Nat} {b : Bucket Binary64} (h : BucketSound below above n b)
    (hle : n ≤ m) : BucketSound below above m b :=
  ⟨h.total, h.count_pos, Nat.le_trans h.count_le hle⟩

/-- One more run keeps every bucket sound, and adds at most one of them. -/
theorem place_sound {s : Sample Binary64} (hs : SignOwed below above s.2) {n : Nat}
    {bs : List (Bucket Binary64)} (hbs : ∀ b ∈ bs, BucketSound below above n b) :
    (∀ b ∈ place s bs, BucketSound below above (n + 1) b) ∧
      (place s bs).length ≤ bs.length + 1 ∧ place s bs ≠ [] := by
  have hsingle : BucketSound below above (n + 1) (.single s.1 s.2) :=
    ⟨(SignOwed.zero false).add hs, Nat.one_pos, Nat.le_add_left 1 n⟩
  induction bs with
  | nil => simpa [place] using hsingle
  | cons b rest ih =>
    have hb := hbs b List.mem_cons_self
    have hrest : ∀ c ∈ rest, BucketSound below above (n + 1) c := fun c hc =>
      (hbs c (List.mem_cons_of_mem _ hc)).mono (Nat.le_succ n)
    unfold place
    split
    · refine ⟨?_, by simp, by simp⟩
      intro c hc
      rcases List.mem_cons.mp hc with rfl | hc
      · exact hsingle
      · rcases List.mem_cons.mp hc with rfl | hc
        · exact hb.mono (Nat.le_succ n)
        · exact hrest c hc
    · split
      · -- the run joins the bucket of its date
        refine ⟨?_, by simp, by simp⟩
        intro c hc
        rcases List.mem_cons.mp hc with rfl | hc
        · exact ⟨hb.total.add hs, Nat.succ_pos _, Nat.succ_le_succ hb.count_le⟩
        · exact hrest c hc
      · obtain ⟨hall, hlen, -⟩ := ih fun c hc => hbs c (List.mem_cons_of_mem _ hc)
        refine ⟨?_, by simpa using hlen, by simp⟩
        intro c hc
        rcases List.mem_cons.mp hc with rfl | hc
        · exact hb.mono (Nat.le_succ n)
        · exact hall c hc

/-- Placing runs one after another keeps every bucket sound. -/
theorem foldl_place_sound {samples : List (Sample Binary64)}
    (hs : ∀ s ∈ samples, SignOwed below above s.2) {n : Nat} {bs : List (Bucket Binary64)}
    (hbs : ∀ b ∈ bs, BucketSound below above n b) (hlen : bs.length ≤ n)
    (hne : samples ≠ [] ∨ bs ≠ []) :
    let after := samples.foldl (fun bs s => place s bs) bs
    (∀ b ∈ after, BucketSound below above (n + samples.length) b) ∧
      after.length ≤ n + samples.length ∧ after ≠ [] := by
  induction samples generalizing n bs with
  | nil => exact ⟨hbs, hlen, hne.resolve_left (fun h => h rfl)⟩
  | cons s rest ih =>
    obtain ⟨hall, hlen', hne'⟩ := place_sound (hs s List.mem_cons_self) hbs
    have hstep := ih (fun t ht => hs t (List.mem_cons_of_mem _ ht)) hall
      (Nat.le_trans hlen' (Nat.succ_le_succ hlen)) (Or.inr hne')
    rwa [List.length_cons, Nat.add_comm rest.length, ← Nat.add_assoc]

/-- **The buckets** of some runs: all sound, no more than the runs, and some if there are runs. -/
theorem buckets_sound {samples : List (Sample Binary64)}
    (hs : ∀ s ∈ samples, SignOwed below above s.2) (hne : samples ≠ []) :
    (∀ b ∈ buckets samples, BucketSound below above samples.length b) ∧
      (buckets samples).length ≤ samples.length ∧ buckets samples ≠ [] := by
  have hnone : ∀ b ∈ ([] : List (Bucket Binary64)), BucketSound below above 0 b := fun b hb =>
    absurd hb List.not_mem_nil
  have h := foldl_place_sound hs hnone (Nat.le_refl 0) (Or.inl hne)
  rwa [Nat.zero_add] at h

/-- **The weighted sum** has a sign that is owed, and the sum of the weights is a positive number. -/
theorem weigh_spec {averages : List Binary64} (havg : ∀ a ∈ averages, SignOwed below above a)
    {rank : Nat} (hrank : 0 < rank) (hle : rank + averages.length ≤ UInt64.size)
    {weighted : Binary64} (hsum : SignOwed below above weighted) {w : Magnitude}
    (hw : w.units ≤ Binary64.weightBound.units) (hpos : averages ≠ [] ∨ 0 < w.units) :
    SignOwed below above (weigh rank (weighted, .finite false w) averages).1 ∧
      Positive (weigh rank (weighted, .finite false w) averages).2 := by
  -- the bound on the weights is kept because a rank that is added to it is lost in rounding
  induction averages generalizing rank weighted w with
  | nil => exact ⟨hsum, w, rfl, hpos.resolve_left (fun h => h rfl)⟩
  | cons a rest ih =>
    have hrank' : rank ≤ UInt64.size := by omega
    obtain ⟨m, hm, hmpos, hmle⟩ := Binary64.add_ofNat_bounded hw hrank hrank'
    have hterm := (havg a List.mem_cons_self).mul_positive
      (Binary64.positive_ofNat hrank hrank')
    have hstep := ih (fun c hc => havg c (List.mem_cons_of_mem _ hc)) (Nat.succ_pos rank)
      (by rw [List.length_cons] at hle; omega) (hsum.add hterm) hmle (Or.inr hmpos)
    rw [← hm] at hstep
    exact hstep

/-- The sign of the weighted mean is owed to durations of that sign. -/
theorem signOwed_recencyWeightedMean {samples : List (Sample Binary64)}
    (hs : ∀ s ∈ samples, SignOwed below above s.2) (hne : samples ≠ [])
    (hlen : samples.length < UInt64.size) :
    SignOwed below above (recencyWeightedMean samples) := by
  obtain ⟨hsound, hcount, hbne⟩ := buckets_sound hs hne
  have havg : ∀ a ∈ (buckets samples).map Bucket.average, SignOwed below above a := by
    intro a ha
    obtain ⟨b, hb, rfl⟩ := List.mem_map.mp ha
    have hb := hsound b hb
    exact hb.total.div_positive
      (Binary64.positive_ofNat hb.count_pos (Nat.le_trans hb.count_le (Nat.le_of_lt hlen)))
  have hranks : 1 + ((buckets samples).map Bucket.average).length ≤ UInt64.size := by
    rw [List.length_map]
    exact Nat.le_trans (Nat.add_le_add_left hcount 1) (by omega)
  have hstart : Magnitude.zero.units ≤ Binary64.weightBound.units := Nat.zero_le _
  obtain ⟨hsum, hweights⟩ := weigh_spec havg Nat.one_pos hranks (SignOwed.zero false) hstart
    (Or.inl (by simpa using hbne))
  exact hsum.div_positive hweights

end Means

/-! ## The clamps -/

/-- The clamps refuse only bounds that are out of order, whatever is held between them. -/
theorem clamp_eq_none_iff {low high : Binary64} (x : Binary64) :
    clamp? low high x = none ↔ Binary64.le low high = false := by
  unfold clamp?
  cases h : Binary64.le low high with
  | true => simp [DurationNumber.le, h]
  | false => simp [DurationNumber.le, h]

/-- **A number held between bounds** stands between them, and so does what is no number if the bounds
stand on both sides of zero. -/
theorem clamp_between {low high x : Binary64} (hlow : low.isNaN = false) (hhigh : high.isNaN = false)
    (hle : low.position ≤ high.position)
    (hnan : x.isNaN = true → low.position ≤ 0 ∧ 0 ≤ high.position) :
    ∃ y, clamp? low high x = some y ∧ low.position ≤ y.position ∧ y.position ≤ high.position := by
  have hin : Binary64.le low high = true := (Binary64.le_iff hlow hhigh).2 hle
  unfold clamp?
  simp only [DurationNumber.le, DurationNumber.lt, hin, if_true]
  cases hx : x.isNaN with
  | true =>
    cases x with
    | nan =>
      obtain ⟨hl, hh⟩ := hnan rfl
      have hbelow : Binary64.lt .nan low = false := rfl
      have habove : Binary64.lt high .nan = false := by cases high <;> rfl
      exact ⟨.nan, by simp [hbelow, habove], hl, hh⟩
    | infinite s => cases hx
    | finite s m => cases hx
  | false =>
    have hxlow := Binary64.lt_iff hx hlow
    have hhighx := Binary64.lt_iff hhigh hx
    by_cases h1 : Binary64.lt x low = true
    · exact ⟨low, by simp [h1], Int.le_refl _, hle⟩
    · have hge : low.position ≤ x.position := Int.not_lt.1 fun hc => h1 (hxlow.2 hc)
      by_cases h2 : Binary64.lt high x = true
      · exact ⟨high, by simp [h1, h2], hle, Int.le_refl _⟩
      · exact ⟨x, by simp [h1, h2], hge, Int.not_lt.1 fun hc => h2 (hhighx.2 hc)⟩

/-! ## The figures -/

/-- The longest duration is a number, and the shortest one is. -/
theorem extremes_are_numbers (ds : List Binary64) :
    (longest ds).isNaN = false ∧ (shortest ds).isNaN = false :=
  ⟨(Binary64.foldl_maxNum_spec ds rfl).1, (Binary64.foldl_minNum_spec ds rfl).1⟩

/-- Every duration that is a number stands between the shortest and the longest. -/
theorem position_between_extremes {ds : List Binary64} {d : Binary64} (hd : d ∈ ds)
    (hnum : d.isNaN = false) :
    (shortest ds).position ≤ d.position ∧ d.position ≤ (longest ds).position :=
  ⟨(Binary64.foldl_minNum_spec ds rfl).2.2.1 d hd hnum,
    (Binary64.foldl_maxNum_spec ds rfl).2.2.1 d hd hnum⟩

/-- The shortest duration is at most the longest exactly if some duration is a number. -/
theorem extremes_out_of_order_iff (ds : List Binary64) :
    Binary64.le (shortest ds) (longest ds) = false ↔ ∀ d ∈ ds, d.isNaN = true := by
  obtain ⟨hmax, hmin⟩ := extremes_are_numbers ds
  constructor
  · intro hle d hd
    cases hnum : d.isNaN with
    | true => rfl
    | false =>
      obtain ⟨hlow, hhigh⟩ := position_between_extremes hd hnum
      rw [(Binary64.le_iff hmin hmax).2 (Int.le_trans hlow hhigh)] at hle
      cases hle
  · intro hnan
    have hlong : longest ds = .lowest := (Binary64.foldl_maxNum_spec ds rfl).2.2.2 hnan
    have hshort : shortest ds = .largest := (Binary64.foldl_minNum_spec ds rfl).2.2.2 hnan
    rw [hlong, hshort]
    decide +kernel

/-- **The figures are refused** exactly when no duration is a number. -/
theorem figures_eq_none_iff (samples : List (Sample Binary64)) :
    figures? samples = none ↔ ∀ d ∈ samples.map Prod.snd, d.isNaN = true := by
  rw [← extremes_out_of_order_iff]
  unfold figures?
  dsimp only
  cases hle : Binary64.le (shortest (samples.map Prod.snd)) (longest (samples.map Prod.snd)) with
  | false =>
    rw [(clamp_eq_none_iff _).2 hle]
    simp
  | true =>
    have hsome : ∀ x, ∃ y, clamp? (shortest (samples.map Prod.snd))
        (longest (samples.map Prod.snd)) x = some y := fun x =>
      Option.ne_none_iff_exists'.1 fun h => by rw [(clamp_eq_none_iff x).1 h] at hle; cases hle
    obtain ⟨y, hy⟩ := hsome (recencyWeightedMean samples)
    obtain ⟨z, hz⟩ := hsome (mean (samples.map Prod.snd))
    simp [hy, hz]

/-- The means among the figures are what the clamps make of the means of the runs. -/
theorem means_of_figures {α : Type} [DurationNumber α] {samples : List (Sample α)} {t : RunTimes α}
    (h : figures? samples = some t) :
    let ds := samples.map Prod.snd
    clamp? (shortest ds) (longest ds) (mean ds) = some t.avg ∧
      clamp? (shortest ds) (longest ds) (recencyWeightedMean samples) = some t.weightedAvg := by
  rw [figures?] at h
  split at h
  next hweighted havg =>
    obtain rfl := Option.some.inj h
    exact ⟨havg, hweighted⟩
  next => cases h

/-- A computed number whose sign is owed to some durations is held between the extremes. -/
theorem clamp_between_extremes {ds : List Binary64} (hne : ds ≠ [])
    (hnum : ∀ d ∈ ds, d.isNaN = false) {x : Binary64}
    (hx : SignOwed (∃ d ∈ ds, d.position < 0) (∃ d ∈ ds, 0 < d.position) x) :
    ∃ y, clamp? (shortest ds) (longest ds) x = some y ∧
      (shortest ds).position ≤ y.position ∧ y.position ≤ (longest ds).position := by
  obtain ⟨hmax, hmin⟩ := extremes_are_numbers ds
  have hbetween : ∀ d ∈ ds, _ := fun d hd => position_between_extremes hd (hnum d hd)
  obtain ⟨d, hd⟩ := List.exists_mem_of_ne_nil ds hne
  refine clamp_between hmin hmax (Int.le_trans (hbetween d hd).1 (hbetween d hd).2) ?_
  intro hnan
  -- what is no number is cast to zero, and some durations stand on either side of that
  obtain ⟨⟨l, hl, hneg⟩, ⟨g, hg, hpos⟩⟩ := hx.ofNaN hnan
  have hlow := (hbetween l hl).1
  have hhigh := (hbetween g hg).2
  omega

/-- **Both means stand between the extremes** as soon as all durations are numbers. -/
theorem figures_between_extremes {samples : List (Sample Binary64)} (hne : samples ≠ [])
    (hlen : samples.length < UInt64.size)
    (hnum : ∀ d ∈ samples.map Prod.snd, d.isNaN = false) :
    ∃ t, figures? samples = some t ∧ t.min.position ≤ t.avg.position ∧
      t.avg.position ≤ t.max.position ∧ t.min.position ≤ t.weightedAvg.position ∧
      t.weightedAvg.position ≤ t.max.position := by
  have howed : ∀ d ∈ samples.map Prod.snd, SignOwed (∃ d ∈ samples.map Prod.snd, d.position < 0)
      (∃ d ∈ samples.map Prod.snd, 0 < d.position) d := fun d hd =>
    ⟨fun h => ⟨d, hd, h⟩, fun h => ⟨d, hd, h⟩, fun h => by rw [hnum d hd] at h; cases h⟩
  have hds : samples.map Prod.snd ≠ [] := by simpa using hne
  have hmean := signOwed_mean howed hds (by simpa using hlen)
  have hweighted := signOwed_recencyWeightedMean
    (fun s hs => howed s.2 (List.mem_map_of_mem hs)) hne hlen
  obtain ⟨avg, havg, havgl, havgh⟩ := clamp_between_extremes hds hnum hmean
  obtain ⟨wt, hwt, hwtl, hwth⟩ := clamp_between_extremes hds hnum hweighted
  refine ⟨⟨longest (samples.map Prod.snd), shortest (samples.map Prod.snd), avg, wt⟩, ?_,
    havgl, havgh, hwtl, hwth⟩
  unfold figures?
  dsimp only
  rw [hwt, havg]

end Stats

/-- What the figures say of the runs themselves. -/
theorem computeRunTimeStats_eq_none_iff {runs : List Run} (hne : runs ≠ []) :
    computeRunTimeStats? runs = none ↔ ∀ r ∈ runs, r.totalRunTime.isNaN = true := by
  unfold computeRunTimeStats?
  rw [if_neg (by simpa using hne), Option.map_eq_none_iff, Stats.figures_eq_none_iff]
  simp [Run.sample]

/-- A snapshot is computed as soon as some duration is a number. -/
theorem exists_computed {runs : List Run} (h : ∃ r ∈ runs, r.totalRunTime.isNaN = false) :
    ∃ s, computeRunTimeStats? runs = some s := by
  obtain ⟨r, hr, hnum⟩ := h
  refine Option.ne_none_iff_exists'.1 fun hnone => ?_
  have hnan := (computeRunTimeStats_eq_none_iff (List.ne_nil_of_mem hr)).1 hnone r hr
  rw [hnum] at hnan
  cases hnan

/-- A mean as a figure over some durations: held between their extremes and rounded up. -/
def Stats.held (ds : List Binary64) (x : Binary64) : Option Int64 :=
  (clamp? (shortest ds) (longest ds) x).map Binary64.ceilInt64

/-- The durations that statistics see. -/
theorem durations_eq (runs : List Run) : (runs.map Run.sample).map Prod.snd = runs.map Run.totalRunTime := by
  rw [List.map_map]
  rfl

/-- What a snapshot has for the means. -/
theorem means_of_computed {runs : List Run} (hne : runs ≠ []) {s : RunTimeStats}
    (h : computeRunTimeStats? runs = some s) :
    let ds := runs.map Run.totalRunTime
    Stats.held ds (Stats.mean ds) = some s.avg ∧
      Stats.held ds (Stats.recencyWeightedMean (runs.map Run.sample)) = some s.weightedAvg := by
  rw [computeRunTimeStats?, if_neg (by simpa using hne), Option.map_eq_some_iff] at h
  obtain ⟨t, ht, rfl⟩ := h
  obtain ⟨havg, hweighted⟩ := Stats.means_of_figures ht
  rw [durations_eq] at havg hweighted
  intro ds
  rw [Stats.held, Stats.held, havg, hweighted]
  exact ⟨rfl, rfl⟩

/-- **The order of the figures.** Statistics over some runs are refused exactly when no duration is a
number. When all durations are numbers, of whatever size and sign and on whatever dates, both means
are between the shortest and the longest run time, in whole seconds. That a list of runs has a length
of 64 bits is all that is asked of it: an endless count would itself overflow to an infinity. -/
theorem runTimeStats_between_extremes (runs : List Run) (hne : runs ≠ []) :
    (computeRunTimeStats? runs = none ↔ ∀ r ∈ runs, r.totalRunTime.isNaN = true) ∧
      (runs.length < UInt64.size → (∀ r ∈ runs, r.totalRunTime.isNaN = false) →
        ∃ s, computeRunTimeStats? runs = some s ∧
          (s.min ≤ s.avg ∧ s.avg ≤ s.max) ∧ (s.min ≤ s.weightedAvg ∧ s.weightedAvg ≤ s.max)) := by
  refine ⟨computeRunTimeStats_eq_none_iff hne, fun hlen hnum => ?_⟩
  have hnum' : ∀ d ∈ (runs.map Run.sample).map Prod.snd, d.isNaN = false := by
    simpa [Run.sample] using hnum
  obtain ⟨t, ht, hal, hah, hwl, hwh⟩ :=
    Stats.figures_between_extremes (by simpa using hne) (by simpa using hlen) hnum'
  refine ⟨t.map Binary64.ceilInt64, ?_, ⟨?_, ?_⟩, ⟨?_, ?_⟩⟩
  · unfold computeRunTimeStats?
    rw [if_neg (by simpa using hne), ht]
    rfl
  · exact Binary64.ceilInt64_mono hal
  · exact Binary64.ceilInt64_mono hah
  · exact Binary64.ceilInt64_mono hwl
  · exact Binary64.ceilInt64_mono hwh

/-- Two runs of one date that took an endless time and an endless time less: their mean is no number,
and still the figures stand in order. -/
theorem runTimeStats_between_infinities :
    let runs : List Run := [{ (default : Run) with totalRunTime := .infinite false },
      { (default : Run) with totalRunTime := .infinite true }]
    (runs ≠ [] ∧ runs.length < UInt64.size ∧ ∀ r ∈ runs, r.totalRunTime.isNaN = false) ∧
      ∃ s, computeRunTimeStats? runs = some s ∧
        (s.min ≤ s.avg ∧ s.avg ≤ s.max) ∧ (s.min ≤ s.weightedAvg ∧ s.weightedAvg ≤ s.max) := by
  intro runs
  have hne : runs ≠ [] := by simp [runs]
  have hlen : runs.length < UInt64.size := by decide
  have hnum : ∀ r ∈ runs, r.totalRunTime.isNaN = false := by simp [runs, Binary64.isNaN]
  exact ⟨⟨hne, hlen, hnum⟩, (runTimeStats_between_extremes runs hne).2 hlen hnum⟩

end FlowRuns
