import Mathlib.Data.Nat.Cast.Field
import Mathlib.Data.Rat.Floor
import FlowRuns.Stats.Arithmetic
import FlowRuns.Proofs.Binary64.Position

/-!
# The value of a finite number

A finite number counts units, so its value is a fraction of whole numbers. Exact arithmetic takes over
where the format ends: what is computed from the values is not rounded.

* `Binary64.toRat` — the value.
* `Binary64.toRat_bounds` — no value lies beyond the ends of the format.
* `Binary64.lt_iff_toRat` — comparing finite numbers is comparing values, and the extremes of finite numbers
  have the extreme values (`Binary64.toRat_maxNum`, `Binary64.toRat_minNum`, `Binary64.toRat_foldl`).
* `Binary64.toInt_ceilInt64_of_isFinite` — rounding up to 64 bits is rounding up the value.
-/

namespace FlowRuns

namespace Binary64

/-- Whether this is a finite number. -/
def isFinite : Binary64 → Bool
  | finite _ _ => true
  | _ => false

/-- The value of a finite number; anything else has none, and zero stands for it. -/
def toRat : Binary64 → Rat
  | finite negative m => signedUnits negative m / unitsPerOne
  | _ => 0

/-- The largest number of units makes a whole number. -/
theorem largest_eq : Rat.largestBinary64 = Magnitude.largest.units / unitsPerOne := by
  have hdvd : unitsPerOne ∣ Magnitude.largest.units := by decide +kernel
  rw [Rat.largestBinary64, Nat.cast_div hdvd (Nat.cast_ne_zero.2 (Nat.two_pow_pos _).ne')]

/-- **No value lies beyond the ends of the format.** -/
theorem toRat_bounds (x : Binary64) : -Rat.largestBinary64 ≤ x.toRat ∧ x.toRat ≤ Rat.largestBinary64 := by
  have hunits : (0 : Rat) ≤ unitsPerOne := Nat.cast_nonneg _
  have hlargest : 0 ≤ Rat.largestBinary64 := Nat.cast_nonneg _
  cases x with
  | nan => exact ⟨neg_nonpos.2 hlargest, hlargest⟩
  | infinite s => exact ⟨neg_nonpos.2 hlargest, hlargest⟩
  | finite s m =>
    have hle := m.units_le_largest
    have hsigned : -(Magnitude.largest.units : Int) ≤ signedUnits s m ∧
        signedUnits s m ≤ Magnitude.largest.units := by
      generalize Magnitude.largest.units = top at hle ⊢
      unfold signedUnits
      split <;> omega
    rw [largest_eq, toRat, ← neg_div]
    exact ⟨div_le_div_of_nonneg_right (by exact_mod_cast hsigned.1) hunits,
      div_le_div_of_nonneg_right (by exact_mod_cast hsigned.2) hunits⟩

theorem toRat_largest : largest.toRat = Rat.largestBinary64 := largest_eq.symm

theorem toRat_lowest : lowest.toRat = -Rat.largestBinary64 := by
  rw [largest_eq, ← neg_div]
  exact congrArg (· / (unitsPerOne : Rat)) (Int.cast_neg _)

/-! ## Order -/

variable {x y : Binary64}

theorem isNaN_of_isFinite (h : x.isFinite = true) : x.isNaN = false := by
  cases x with
  | nan => cases h
  | infinite s => rfl
  | finite s m => rfl

theorem toRat_eq_position (h : x.isFinite = true) : x.toRat = x.position / unitsPerOne := by
  cases x with
  | nan => cases h
  | infinite s => cases h
  | finite s m => rfl

/-- **Comparing finite numbers** is comparing their values. -/
theorem lt_iff_toRat (hx : x.isFinite = true) (hy : y.isFinite = true) :
    lt x y = true ↔ x.toRat < y.toRat := by
  have hunits : (0 : Rat) < unitsPerOne := Nat.cast_pos.2 (Nat.two_pow_pos _)
  rw [lt_iff (isNaN_of_isFinite hx) (isNaN_of_isFinite hy), toRat_eq_position hx, toRat_eq_position hy,
    div_lt_div_iff_of_pos_right hunits, Int.cast_lt]

theorem le_iff_toRat (hx : x.isFinite = true) (hy : y.isFinite = true) :
    le x y = true ↔ x.toRat ≤ y.toRat := by
  have hunits : (0 : Rat) < unitsPerOne := Nat.cast_pos.2 (Nat.two_pow_pos _)
  rw [le_iff (isNaN_of_isFinite hx) (isNaN_of_isFinite hy), toRat_eq_position hx, toRat_eq_position hy,
    div_le_div_iff_of_pos_right hunits, Int.cast_le]

theorem toRat_maxNum (hx : x.isFinite = true) (hy : y.isFinite = true) :
    (maxNum x y).isFinite = true ∧ (maxNum x y).toRat = max x.toRat y.toRat := by
  rw [maxNum, isNaN_of_isFinite hx, isNaN_of_isFinite hy, max_def_lt]
  by_cases h : lt x y = true
  · simp [h, hy, (lt_iff_toRat hx hy).1 h]
  · simp [h, hx, mt (lt_iff_toRat hx hy).2 h]

theorem toRat_minNum (hx : x.isFinite = true) (hy : y.isFinite = true) :
    (minNum x y).isFinite = true ∧ (minNum x y).toRat = min x.toRat y.toRat := by
  rw [minNum, isNaN_of_isFinite hx, isNaN_of_isFinite hy, min_comm, min_def_lt]
  by_cases h : lt y x = true
  · simp [h, hy, (lt_iff_toRat hy hx).1 h]
  · simp [h, hx, mt (lt_iff_toRat hy hx).2 h]

/-- **A search among finite numbers** is one among their values, if a choice between two numbers is one
between their values. -/
theorem toRat_foldl {pick : Binary64 → Binary64 → Binary64} {pickValue : Rat → Rat → Rat}
    (hpick : ∀ x y : Binary64, x.isFinite = true → y.isFinite = true →
      (pick x y).isFinite = true ∧ (pick x y).toRat = pickValue x.toRat y.toRat)
    (ds : List Binary64) (hds : ∀ d ∈ ds, d.isFinite = true) {start : Binary64}
    (hstart : start.isFinite = true) :
    (ds.foldl pick start).isFinite = true ∧
      (ds.foldl pick start).toRat = (ds.map toRat).foldl pickValue start.toRat := by
  induction ds generalizing start with
  | nil => exact ⟨hstart, rfl⟩
  | cons d ds ih =>
    obtain ⟨hfinite, hvalue⟩ := hpick start d hstart (hds d List.mem_cons_self)
    rw [List.foldl_cons, List.map_cons, List.foldl_cons, ← hvalue]
    exact ih (fun e he => hds e (List.mem_cons_of_mem d he)) hfinite

/-! ## Rounding up -/

/-- **Rounding up to 64 bits** is rounding up the value of a finite number, within the range of 64 bits. -/
theorem toInt_ceilInt64_of_isFinite (h : x.isFinite = true) :
    x.ceilInt64.toInt = saturate Int64.minValue.toInt Int64.maxValue.toInt ⌈x.toRat⌉ := by
  rw [toInt_ceilInt64]
  cases x with
  | nan => cases h
  | infinite s => cases h
  | finite s m => rw [toRat, Rat.ceil_intCast_div_natCast, position_finite, ceilOf]

end Binary64

end FlowRuns
