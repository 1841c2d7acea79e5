import FlowRuns.Proofs.Binary64.Nearness
import FlowRuns.Proofs.Stats.WeightedMean

/-!
# How exact the means are

Both means are rounded at every step, and then up to whole seconds. As long as durations are not negative
and there are not millions of runs, the means that are computed are within a hair of the exact ones, so their
figures are the exact ones rounded up, unless a whole number of seconds lies within that hair.

* `Stats.near_mean`, `Stats.near_recencyWeightedMean` — **the means** that are computed.
* `Stats.WithinHair`, `Stats.withinHair_clamp` — **their figures**.
* `Stats.ClearOfWhole`, `Stats.WithinHair.eq_of_clear` — a value with no whole number within a hair of it gives
  one figure only.
-/

namespace FlowRuns.Stats

open Binary64 (Near hair unit immense precision toRat)

/-- Durations that are finite and not negative. -/
def Timed (ds : List Binary64) : Prop := ∀ d ∈ ds, d.isFinite = true ∧ 0 ≤ d.toRat

instance (ds : List Binary64) : Decidable (Timed ds) :=
  inferInstanceAs (Decidable (∀ d ∈ ds, d.isFinite = true ∧ 0 ≤ d.toRat))

theorem Timed.isFinite {ds : List Binary64} (hds : Timed ds) : ∀ d ∈ ds, d.isFinite = true :=
  fun d hd => (hds d hd).1

theorem Timed.perm {ds ds' : List Binary64} (hds : Timed ds) (hperm : ds.Perm ds') : Timed ds' :=
  fun d hd => hds d (hperm.mem_iff.2 hd)

theorem Timed.exactMean_nonneg {ds : List Binary64} (hds : Timed ds) : 0 ≤ exactMean (ds.map toRat) :=
  div_nonneg (List.sum_nonneg (List.forall_mem_map.2 fun d hd => (hds d hd).2)) (Nat.cast_nonneg _)

/-! ## Bounds -/

theorem two_pow_le_immense : (2 : ℚ) ^ 200 ≤ immense / 2 := by
  have hunits := Binary64.unitsPerOne_pos
  have hlimit : 2 ^ 200 * Binary64.unitsPerOne * 4 ≤ Binary64.limit := by decide +kernel
  rw [immense, unit]
  generalize Binary64.unitsPerOne = units at hunits hlimit ⊢
  generalize Binary64.limit = limit at hlimit ⊢
  have hpos : (0 : ℚ) < units := Nat.cast_pos.2 hunits
  have hcast : (2 : ℚ) ^ 200 * units * 4 ≤ limit := by exact_mod_cast hlimit
  rw [mul_one_div, div_div, div_div, le_div_iff₀ (by positivity)]
  linarith

theorem unit_le_one : unit ≤ 1 := by
  have hunits : (1 : ℚ) ≤ Binary64.unitsPerOne := Nat.one_le_cast.2 Binary64.unitsPerOne_pos
  rw [unit]
  exact div_le_one_of_le₀ hunits (zero_le_one.trans hunits)

/-! ## The mean -/

variable {ds : List Binary64} {large : ℚ}

/-- **A mean** that is computed, by a sum from whichever zero. -/
theorem near_mean (negative : Bool) (hds : Timed ds) (hne : ds ≠ []) (hlen : ds.length < 2 ^ 26)
    (hlarge : large ≤ 2 ^ 128) :
    Near (ds.length + 1) (unit / 2) large (exactMean (ds.map toRat))
      (Binary64.div (ds.foldl Binary64.add (.finite negative .zero)) (.ofNat ds.length)) := by
  have hpos : 0 < ds.length := List.length_pos_iff.2 hne
  have hcount : (ds.length : ℚ) ≤ 2 ^ 26 := by exact_mod_cast hlen.le
  have himmense := two_pow_le_immense
  have hstart := Binary64.near_zero negative (ds.length * large)
  have hsum := Binary64.near_foldl_add hds hstart le_rfl (by omega) (by nlinarith)
  have hsum0 : 0 ≤ (ds.map toRat).sum := List.sum_nonneg (List.forall_mem_map.2 fun d hd => (hds d hd).2)
  -- the division is one step more, and what it loses below the last place is half a unit
  have hmean := hsum.div hpos (by unfold precision; omega) (by simpa using hsum0) le_rfl (by omega)
    (by rw [zero_div, add_zero]; linarith)
  simpa [exactMean] using hmean

/-! ## The weighted mean -/

/-- Counts are added up exactly. -/
theorem foldl_add_ofNat {β : Type} (l : List (β × ℕ)) {w : ℕ} (h : w + (l.map Prod.snd).sum < 2 ^ precision) :
    l.foldl (fun sum a => Binary64.add sum (.ofNat a.2)) (.ofNat w) = .ofNat (w + (l.map Prod.snd).sum) := by
  induction l generalizing w with
  | nil => rw [List.map_nil, List.sum_nil, Nat.add_zero, List.foldl_nil]
  | cons a l ih =>
    rw [List.map_cons, List.sum_cons, ← Nat.add_assoc] at h ⊢
    rw [List.foldl_cons, Binary64.ofNat_add_ofNat (Nat.lt_of_le_of_lt (Nat.le_add_right _ _) h), ih h]

/-- A weighted sum of numbers that are near to values is near to the weighted sum of the values. -/
theorem near_weigh {β : Type} {f : β → Binary64} {g : β → ℚ} {l : List (β × ℕ)} {k m : ℕ} {c h v : ℚ}
    {acc : Binary64} (hl : ∀ a ∈ l, (0 < a.2 ∧ a.2 < 2 ^ precision) ∧ Near k h large (g a.1) (f a.1) ∧ 0 ≤ g a.1)
    (hacc : Near m c large v acc) (hkm : k + 1 ≤ m) (hv : 0 ≤ v) (hc : 0 ≤ c) (hh : 0 ≤ h)
    (hm : m + l.length ≤ 2 ^ 52) (hlarge : large + (c + (l.map Prod.snd).sum * h) ≤ immense / 2) :
    Near (m + l.length) (c + (l.map Prod.snd).sum * h) large
      (l.foldl (fun sum a => sum + a.2 * g a.1) v)
      (l.foldl (fun sum a => Binary64.add sum (Binary64.mul (.ofNat a.2) (f a.1))) acc) := by
  induction l generalizing m c v acc with
  | nil => simpa using hacc
  | cons a l ih =>
    obtain ⟨⟨ha0, ha⟩, hnear, hg⟩ := hl a List.mem_cons_self
    have hrest : 0 ≤ ((l.map Prod.snd).sum : ℚ) * h := mul_nonneg (Nat.cast_nonneg _) hh
    have hfirst : 0 ≤ (a.2 : ℚ) * h := mul_nonneg (Nat.cast_nonneg _) hh
    have hvalue : 0 ≤ (a.2 : ℚ) * g a.1 := mul_nonneg (Nat.cast_nonneg _) hg
    rw [List.map_cons, List.sum_cons, Nat.cast_add, add_mul, ← add_assoc c] at hlarge ⊢
    rw [List.length_cons] at hm
    -- a term is one step more than the mean it weights; the sum so far has taken at least as many
    have hterm := (hnear.mul ha0 ha hg hh (by omega) (by linarith)).mono hkm le_rfl (add_nonneg hvalue hfirst)
    have hstep := hacc.add hterm hv hvalue hc hfirst (by omega) (by linarith)
    have h := ih (fun b hb => hl b (List.mem_cons_of_mem a hb)) hstep (by omega) (add_nonneg hv hvalue)
      (add_nonneg hc hfirst) (by omega) hlarge
    rw [List.length_cons, Nat.add_comm l.length, ← Nat.add_assoc]
    exact h

/-- Counts are added up in exact arithmetic too. -/
theorem foldl_add_cast {β : Type} (l : List (β × ℕ)) (w : ℕ) :
    l.foldl (fun sum a => sum + (a.2 : ℚ)) (w : ℚ) = ((w + (l.map Prod.snd).sum : ℕ) : ℚ) := by
  induction l generalizing w with
  | nil => rfl
  | cons a l ih => rw [List.foldl_cons, ← Nat.cast_add, ih, List.map_cons, List.sum_cons, Nat.add_assoc]

/-- The weighted mean as two sums over the dates and their weights, in whatever arithmetic. -/
theorem recencyWeightedMean_eq_foldl {α : Type} [DurationNumber α] (samples : List (Sample α)) :
    recencyWeightedMean samples = DurationNumber.div
      (((dates samples).zipIdx 1).foldl (fun sum a => DurationNumber.add sum
        (DurationNumber.mul (DurationNumber.ofNat a.2) (dateMean samples a.1))) DurationNumber.zero)
      (((dates samples).zipIdx 1).foldl (fun sum a => DurationNumber.add sum (DurationNumber.ofNat a.2))
        DurationNumber.zero) := by
  rw [recencyWeightedMean_eq, weightedMeanFormula, List.zipIdx_map, List.foldl_map, List.foldl_map]
  rfl

section Samples

variable {samples : List (Sample Binary64)}

theorem Timed.durationsOn (hds : Timed (samples.map Prod.snd)) (d : Date) : Timed (durationsOn samples d) :=
  fun x hx => hds x (mem_of_mem_durationsOn hx)

theorem length_insertDate_le (d : Date) (ds : List Date) : (insertDate d ds).length ≤ ds.length + 1 := by
  induction ds with
  | nil => exact Nat.le_refl _
  | cons e ds ih =>
    rw [insertDate]
    split
    · exact Nat.le_refl _
    · split
      · exact Nat.le_succ _
      · exact Nat.succ_le_succ ih

/-- There are no more dates than runs. -/
theorem length_dates_le : (dates samples).length ≤ samples.length := by
  induction samples using List.reverseRecOn with
  | nil => exact Nat.le_refl _
  | append_singleton samples s ih =>
    rw [dates_concat, List.length_append]
    exact (length_insertDate_le s.1 _).trans (Nat.succ_le_succ ih)

/-- The sum of the weights of `n` dates. -/
def totalWeight (n : ℕ) : ℕ := (List.range' 1 n).sum

theorem sum_zipIdx {β : Type} (l : List β) : ((l.zipIdx 1).map Prod.snd).sum = totalWeight l.length := by
  rw [List.zipIdx_map_snd, totalWeight]

theorem totalWeight_pos {n : ℕ} (hn : 0 < n) : 0 < totalWeight n := by
  obtain ⟨n, rfl⟩ := Nat.exists_eq_succ_of_ne_zero hn.ne'
  rw [totalWeight, Nat.succ_eq_add_one, List.range'_succ, List.sum_cons]
  omega

theorem totalWeight_le {n : ℕ} (hn : n < 2 ^ 26) : totalWeight n ≤ 2 ^ 52 := by
  have h := (List.range' 1 n).sum_le_card_nsmul n fun i hi => by
    have := (List.mem_range'_1.1 hi).2
    omega
  rw [List.length_range', smul_eq_mul] at h
  calc totalWeight n ≤ n * n := h
    _ ≤ 2 ^ 26 * 2 ^ 26 := Nat.mul_le_mul hn.le hn.le
    _ = 2 ^ 52 := by norm_num

theorem dateMean_eq (d : Date) : dateMean samples d = Binary64.div
    ((durationsOn samples d).foldl Binary64.add .zero) (.ofNat (durationsOn samples d).length) := by
  rw [dateMean]
  rfl

/-- The mean of one date. -/
theorem near_dateMean (hds : Timed (samples.map Prod.snd)) (hlen : samples.length < 2 ^ 26)
    (hlarge : large ≤ 2 ^ 128) {d : Date} (hd : d ∈ dates samples) :
    Near (samples.length + 1) (unit / 2) large (dateMean (samples.map exactly) d) (dateMean samples d) ∧
      0 ≤ dateMean (samples.map exactly) d := by
  have htimed := hds.durationsOn d
  have hlength : (durationsOn samples d).length ≤ samples.length := by
    rw [durationsOn, List.length_map]
    exact List.length_filter_le _ _
  have hpos := htimed.exactMean_nonneg
  have hnear := near_mean false htimed (durationsOn_ne_nil hd) (Nat.lt_of_le_of_lt hlength hlen) hlarge
  rw [dateMean_eq_exactMean, durationsOn_exactly, dateMean_eq, Binary64.zero]
  exact ⟨hnear.mono (Nat.succ_le_succ hlength) le_rfl (add_nonneg hpos (half_pos Binary64.unit_pos).le), hpos⟩

/-- The weighted mean that is computed: a sum with weights, over the sum of the weights. -/
theorem recencyWeightedMean_formula (hlen : samples.length < 2 ^ 26) : recencyWeightedMean samples =
    Binary64.div (((dates samples).zipIdx 1).foldl
      (fun sum a => Binary64.add sum (Binary64.mul (.ofNat a.2) (dateMean samples a.1))) .zero)
      (.ofNat (totalWeight (dates samples).length)) := by
  have hzero : Binary64.ofNat 0 = .zero := by decide +kernel
  have htotal := totalWeight_le (Nat.lt_of_le_of_lt length_dates_le hlen)
  have hweights := foldl_add_ofNat ((dates samples).zipIdx 1) (w := 0) (by
    rw [sum_zipIdx, Nat.zero_add]
    unfold precision
    omega)
  rw [sum_zipIdx, Nat.zero_add, hzero] at hweights
  rw [recencyWeightedMean_eq_foldl, ← hweights]
  rfl

/-- The exact weighted mean in the same form. -/
theorem recencyWeightedMean_exactly : recencyWeightedMean (samples.map exactly) =
    ((dates samples).zipIdx 1).foldl (fun sum a => sum + a.2 * dateMean (samples.map exactly) a.1) 0 /
      (totalWeight (dates samples).length : ℚ) := by
  have hweights := foldl_add_cast ((dates samples).zipIdx 1) 0
  rw [sum_zipIdx, Nat.zero_add, Nat.cast_zero] at hweights
  rw [recencyWeightedMean_eq_foldl, dates_exactly, ← hweights]
  rfl

theorem foldl_weighted_nonneg {β : Type} {g : β → ℚ} {l : List (β × ℕ)} (hl : ∀ a ∈ l, 0 ≤ g a.1) {v : ℚ}
    (hv : 0 ≤ v) : 0 ≤ l.foldl (fun sum a => sum + a.2 * g a.1) v := by
  induction l generalizing v with
  | nil => exact hv
  | cons a l ih =>
    exact ih (fun b hb => hl b (List.mem_cons_of_mem a hb))
      (add_nonneg hv (mul_nonneg (Nat.cast_nonneg _) (hl a List.mem_cons_self)))

theorem recencyWeightedMean_exactly_nonneg (hds : Timed (samples.map Prod.snd)) :
    0 ≤ recencyWeightedMean (samples.map exactly) := by
  rw [recencyWeightedMean_exactly]
  refine div_nonneg (foldl_weighted_nonneg (fun a _ => ?_) le_rfl) (Nat.cast_nonneg _)
  rw [dateMean_eq_exactMean, durationsOn_exactly]
  exact (hds.durationsOn a.1).exactMean_nonneg

/-- **The weighted mean** that is computed. -/
theorem near_recencyWeightedMean (hds : Timed (samples.map Prod.snd)) (hne : samples ≠ [])
    (hlen : samples.length < 2 ^ 26) (hlarge : large ≤ 2 ^ 64) :
    Near (samples.length + (dates samples).length + 3) unit large
      (recencyWeightedMean (samples.map exactly)) (recencyWeightedMean samples) := by
  have hdates : 0 < (dates samples).length := by
    obtain ⟨s, hs⟩ := List.exists_mem_of_ne_nil samples hne
    exact List.length_pos_of_mem (mem_dates.2 ⟨s, hs, rfl⟩)
  have hcount : (dates samples).length ≤ samples.length := length_dates_le
  generalize hw : totalWeight (dates samples).length = total
  have htotal0 : 0 < total := hw ▸ totalWeight_pos hdates
  have htotal : total ≤ 2 ^ 52 := hw ▸ totalWeight_le (Nat.lt_of_le_of_lt hcount hlen)
  have htotal' : (total : ℚ) ≤ 2 ^ 52 := by exact_mod_cast htotal
  have himmense := two_pow_le_immense
  have hunit := Binary64.unit_pos
  have hunit1 := unit_le_one
  let g : Date → ℚ := dateMean (samples.map exactly)
  let f : Date → Binary64 := dateMean samples
  have hterms : ∀ a ∈ (dates samples).zipIdx 1, (0 < a.2 ∧ a.2 < 2 ^ precision) ∧
      Near (samples.length + 1) (unit / 2) (total * large) (g a.1) (f a.1) ∧ 0 ≤ g a.1 := by
    intro a ha
    obtain ⟨hfirst, hlast, hdate⟩ := List.mem_zipIdx ha
    have hmem : a.1 ∈ dates samples := hdate ▸ List.getElem_mem _
    exact ⟨⟨by omega, by unfold precision; omega⟩, near_dateMean hds hlen (by nlinarith) hmem⟩
  have hstart : Near (samples.length + 2) 0 (total * large) 0 (.finite false .zero) :=
    (Binary64.near_zero false _).mono (Nat.zero_le _) le_rfl (by norm_num)
  -- the terms lose `weight · unit / 2` below the last place, so their sum over all weights loses half a unit
  have hsum := near_weigh hterms hstart le_rfl le_rfl le_rfl (half_pos hunit).le
    (by rw [List.length_zipIdx]; omega) (by rw [sum_zipIdx, hw]; nlinarith)
  rw [sum_zipIdx, hw, List.length_zipIdx, zero_add] at hsum
  have hsum0 : 0 ≤ ((dates samples).zipIdx 1).foldl (fun sum a => sum + a.2 * g a.1) 0 :=
    foldl_weighted_nonneg (fun a ha => (hterms a ha).2.2) le_rfl
  have hmean := hsum.div htotal0 (by unfold precision; omega) hsum0 (by positivity) (by omega) (by
    rw [mul_div_cancel_left₀ _ (by positivity)]
    linarith)
  rw [mul_div_cancel_left₀ _ (by positivity), add_halves] at hmean
  have hsteps : samples.length + 2 + (dates samples).length + 1 =
      samples.length + (dates samples).length + 3 := by omega
  rw [recencyWeightedMean_formula hlen, recencyWeightedMean_exactly, hw, Binary64.zero, ← hsteps]
  exact hmean

end Samples

/-! ## Rounding up -/

/-- An exact value rounded up to whole seconds and kept in the range of 64 bits. -/
def wholeSeconds (v : ℚ) : Int64 :=
  Int64.ofInt (Binary64.saturate Int64.minValue.toInt Int64.maxValue.toInt ⌈v⌉)

theorem wholeSeconds_mono {v v' : ℚ} (h : v ≤ v') : wholeSeconds v ≤ wholeSeconds v' := by
  have hrange : Int64.minValue.toInt ≤ Int64.maxValue.toInt := by decide +kernel
  have htoInt (q : ℚ) : (wholeSeconds q).toInt =
      Binary64.saturate Int64.minValue.toInt Int64.maxValue.toInt ⌈q⌉ := by
    obtain ⟨hlow, hhigh⟩ := Binary64.saturate_bounds hrange ⌈q⌉
    exact Int64.toInt_ofInt_of_le hlow (by simpa [Int64.maxValue] using Int.lt_add_one_of_le hhigh)
  rw [Int64.le_iff_toInt_le, htoInt, htoInt]
  exact Binary64.saturate_mono hrange (Int.ceil_le_ceil h)

/-- Beyond the range of 64 bits, all values are kept as the greatest whole number of that range. -/
theorem wholeSeconds_of_le {v : ℚ} (h : 2 ^ 63 ≤ v) : wholeSeconds v = Int64.maxValue := by
  have hceil : (2 ^ 63 : ℤ) ≤ ⌈v⌉ := by
    have hle := h.trans (Int.le_ceil v)
    exact_mod_cast hle
  have hmax : Int64.maxValue.toInt = 2 ^ 63 - 1 := by decide +kernel
  have hmin : Int64.minValue.toInt = -2 ^ 63 := by decide +kernel
  rw [wholeSeconds, Binary64.saturate, if_neg (by omega), if_pos (by omega), Int64.ofInt_toInt]

/-- A figure that comes of a value less a hair, of the value and a hair, or of anything between. -/
def WithinHair (k : ℕ) (c v : ℚ) (figure : Int64) : Prop :=
  wholeSeconds (v - hair k c v) ≤ figure ∧ figure ≤ wholeSeconds (v + hair k c v)

/-- Every whole number is more than a hair below a value, or at least a hair above it. -/
def ClearOfWhole (k : ℕ) (c v : ℚ) : Prop := ∀ n : ℤ, n < v - hair k c v ∨ v + hair k c v ≤ n

variable {k : ℕ} {c v : ℚ}

/-- **A value that is clear of whole numbers** gives one figure only. -/
theorem WithinHair.eq_of_clear {figure : Int64} (h : WithinHair k c v figure) (hv : 0 ≤ v) (hc : 0 ≤ c)
    (hclear : ClearOfWhole k c v) : figure = wholeSeconds v := by
  have hhair : 0 ≤ hair k c v := Binary64.hair_nonneg hv hc
  have hdown : ⌈v - hair k c v⌉ = ⌈v⌉ := eq_of_forall_ge_iff fun n => by
    rw [Int.ceil_le, Int.ceil_le]
    obtain hn | hn := hclear n <;> constructor <;> intro hle <;> linarith
  have hup : ⌈v + hair k c v⌉ = ⌈v⌉ := eq_of_forall_ge_iff fun n => by
    rw [Int.ceil_le, Int.ceil_le]
    obtain hn | hn := hclear n <;> constructor <;> intro hle <;> linarith
  obtain ⟨hlow, hhigh⟩ := h
  rw [wholeSeconds, hdown, ← wholeSeconds] at hlow
  rw [wholeSeconds, hup, ← wholeSeconds] at hhigh
  exact Int64.le_antisymm hhigh hlow

/-- A finite number within a hair of a value gives a figure that is. -/
theorem withinHair_ceilInt64 {y : Binary64} (hy : y.isFinite = true) (hbelow : v - hair k c v ≤ y.toRat)
    (habove : y.toRat ≤ v + hair k c v) : WithinHair k c v y.ceilInt64 := by
  rw [ceilInt64_eq_ofInt hy, ← wholeSeconds]
  exact ⟨wholeSeconds_mono hbelow, wholeSeconds_mono habove⟩

/-- The clamps put the upper bound in the place of infinity. -/
theorem clamp_infinite {low high : Binary64} (hlow : low.isFinite = true) (hhigh : high.isFinite = true)
    (hle : low.toRat ≤ high.toRat) : clamp? low high (Binary64.infinite false) = some high := by
  have hin : DurationNumber.le low high = true := (Binary64.le_iff_toRat hlow hhigh).2 hle
  cases low with
  | finite s m =>
    cases high with
    | finite t n =>
      rw [clamp?, if_pos hin]
      rfl
    | nan => cases hhigh
    | infinite t => cases hhigh
  | nan => cases hlow
  | infinite s => cases hlow

/-- **A mean that is computed, held between the extremes and rounded up**, is within a hair of the exact mean:
that lies between the extremes as well. -/
theorem withinHair_clamp {low high x : Binary64} (hlow : low.isFinite = true) (hhigh : high.isFinite = true)
    (hbetween : low.toRat ≤ v ∧ v ≤ high.toRat) (hnear : Near k c large v x) (hlarge : 2 ^ 63 ≤ large)
    (hv : 0 ≤ v) (hc : 0 ≤ c) :
    ∃ figure, (clamp? low high x).map Binary64.ceilInt64 = some figure ∧ WithinHair k c v figure := by
  have hhair : 0 ≤ hair k c v := Binary64.hair_nonneg hv hc
  have hle : low.toRat ≤ high.toRat := hbetween.1.trans hbetween.2
  cases hnear with
  | finite hx hpos herror =>
    obtain ⟨hbelow, habove⟩ := abs_le.1 herror
    have hin : DurationNumber.le low high = true := (Binary64.le_iff_toRat hlow hhigh).2 hle
    have hxlow : DurationNumber.lt x low = true ↔ x.toRat < low.toRat := Binary64.lt_iff_toRat hx hlow
    have hhighx : DurationNumber.lt high x = true ↔ high.toRat < x.toRat := Binary64.lt_iff_toRat hhigh hx
    rw [clamp?, if_pos hin, Option.map_some]
    refine ⟨_, rfl, ?_⟩
    split
    next hlt =>
      have := hxlow.1 hlt
      exact withinHair_ceilInt64 hlow (by linarith) (by linarith [hbetween.1])
    next =>
      split
      next hlt =>
        have := hhighx.1 hlt
        exact withinHair_ceilInt64 hhigh (by linarith [hbetween.2]) (by linarith)
      next => exact withinHair_ceilInt64 hx (by linarith) (by linarith)
  | infinite hvlarge =>
    -- both the longest duration and the value are beyond the range
    have hbeyond : 2 ^ 63 ≤ v := hlarge.trans hvlarge
    have hmost : high.ceilInt64 = Int64.maxValue := by
      rw [ceilInt64_eq_ofInt hhigh, ← wholeSeconds, wholeSeconds_of_le (hbeyond.trans hbetween.2)]
    refine ⟨_, by rw [clamp_infinite hlow hhigh hle, Option.map_some, hmost], Int64.le_maxValue _, ?_⟩
    rw [wholeSeconds_of_le (by linarith)]
    exact Int64.le_refl _

end FlowRuns.Stats
