import Mathlib.Data.Nat.Cast.Order.Field
import Mathlib.Tactic.Linarith
import Mathlib.Tactic.FieldSimp
import Mathlib.Tactic.Ring
import FlowRuns.Proofs.Binary64.Neutral
import FlowRuns.Proofs.Binary64.Value

/-!
# The error of one operation

An operation on numbers that are not negative is exact arithmetic and one rounding. The rounding changes the
result by at most one part in `2 ^ 53`; where a quotient is so small that its digits do not all have a place,
by at most half a unit besides. What is rounded beyond the largest number is infinite, and then the exact
result was immense.

* `Magnitude.roundUnits_near` — the error of a rounded quotient.
* `Binary64.Rounds` — a number is the rounding of an exact result, up to an error of its own.
* `Binary64.rounds_add`, `Binary64.rounds_mul`, `Binary64.rounds_div` — **adding**, multiplying by a count,
  dividing by a count.
-/

namespace FlowRuns

/-- One part in `2 ^ 53`, by which rounding may change a number. -/
def Binary64.roundoff : ℚ := 1 / 2 ^ Binary64.precision

/-- The value of one unit. -/
def Binary64.unit : ℚ := 1 / Binary64.unitsPerOne

theorem Binary64.roundoff_pos : 0 < Binary64.roundoff := by
  unfold roundoff
  positivity

theorem Binary64.roundoff_le : Binary64.roundoff ≤ 1 / 2 := by
  unfold roundoff precision
  norm_num

theorem Binary64.unit_pos : 0 < Binary64.unit := by
  have hunits : (0 : ℚ) < unitsPerOne := Nat.cast_pos.2 unitsPerOne_pos
  exact one_div_pos.2 hunits

namespace Magnitude

open Binary64 (roundoff)

/-- A quotient is rounded to a whole number at most one half away. -/
theorem roundHalfEven_near (num : ℕ) {den : ℕ} (hden : 0 < den) :
    |(roundHalfEven num den : ℚ) - num / den| ≤ 1 / 2 := by
  have hpos : (0 : ℚ) < den := Nat.cast_pos.2 hden
  have hboth : 2 * (roundHalfEven num den * den) ≤ 2 * num + den ∧
      2 * num ≤ 2 * (roundHalfEven num den * den) + den := by
    have hdiv := Nat.div_add_mod num den
    have hmod := Nat.mod_lt num hden
    rw [Nat.mul_comm] at hdiv
    unfold roundHalfEven
    dsimp only
    split
    · omega
    · split
      · rw [Nat.add_mul]
        omega
      next hge hle =>
        -- the quotient is halfway between two whole numbers
        obtain h | h := Nat.mod_two_eq_zero_or_one (num / den)
        · rw [h, Nat.add_zero]
          omega
        · rw [h, Nat.add_mul]
          omega
  obtain ⟨hlow, hhigh⟩ := hboth
  rw [abs_le]
  constructor
  · rw [neg_le_sub_iff_le_add, div_le_iff₀ hpos]
    have : (2 * num : ℚ) ≤ 2 * (roundHalfEven num den * den) + den := by exact_mod_cast hhigh
    linarith
  · rw [sub_le_iff_le_add, ← sub_le_iff_le_add', le_div_iff₀ hpos]
    have : (2 * (roundHalfEven num den * den) : ℚ) ≤ 2 * num + den := by exact_mod_cast hlow
    linarith

/-- A quotient of which digits are dropped has more than 53 of them, so the last one that is kept is small beside
it. -/
theorem two_pow_le_quotient {num den : ℕ} (h : dropped num den ≠ 0) :
    (2 : ℚ) ^ (dropped num den + 52) ≤ num / den := by
  have hlog : dropped num den + 52 = (num / den).log2 := by
    unfold dropped at h ⊢
    omega
  have hne : num / den ≠ 0 := by
    intro hzero
    unfold dropped at h
    rw [hzero] at h
    exact h rfl
  calc (2 : ℚ) ^ (dropped num den + 52) = ((2 ^ (num / den).log2 : ℕ) : ℚ) := by
        rw [hlog]
        push_cast
        rfl
    _ ≤ ((num / den : ℕ) : ℚ) := Nat.cast_le.2 (Nat.log2_self_le hne)
    _ ≤ num / den := Nat.cast_div_le

/-- **The error of a rounded quotient**: one part in `2 ^ 53`, where there are digits to be dropped; else half
a unit, and nothing at all if the quotient is whole. -/
theorem roundUnits_near (num : ℕ) {den : ℕ} (hden : 0 < den) :
    |(roundUnits num den : ℚ) - num / den| ≤ roundoff * (num / den) + if den = 1 then 0 else 1 / 2 := by
  have hquotient : (0 : ℚ) ≤ num / den := by positivity
  have hscale : (0 : ℚ) < 2 ^ dropped num den := by positivity
  have hnear := roundHalfEven_near num (Nat.mul_pos hden (Nat.two_pow_pos (dropped num den)))
  have herror : |(roundUnits num den : ℚ) - num / den| ≤ 2 ^ dropped num den / 2 := by
    have hsplit : (roundUnits num den : ℚ) - num / den =
        (roundHalfEven num (den * 2 ^ dropped num den) - num / (den * 2 ^ dropped num den : ℕ)) *
          2 ^ dropped num den := by
      rw [roundUnits]
      push_cast
      field_simp
    rw [hsplit, abs_mul, abs_of_pos hscale]
    calc _ ≤ 1 / 2 * (2 : ℚ) ^ dropped num den := mul_le_mul_of_nonneg_right hnear hscale.le
      _ = _ := by ring
  by_cases hdropped : dropped num den = 0
  · rw [hdropped] at herror
    split
    next hone =>
      have hwhole : roundUnits num den = num := by
        rw [roundUnits, hdropped, hone]
        simpa using roundHalfEven_mul num 1 Nat.one_pos
      rw [hwhole, hone, Nat.cast_one, div_one, sub_self, abs_zero, add_zero]
      exact mul_nonneg Binary64.roundoff_pos.le (Nat.cast_nonneg num)
    next =>
      have : 0 ≤ roundoff * (num / den : ℚ) := mul_nonneg Binary64.roundoff_pos.le hquotient
      linarith
  · have hleading := two_pow_le_quotient hdropped
    have hsmall : (2 : ℚ) ^ dropped num den / 2 = roundoff * 2 ^ (dropped num den + 52) := by
      unfold roundoff Binary64.precision
      rw [pow_add]
      ring
    have hrest : (0 : ℚ) ≤ if den = 1 then 0 else 1 / 2 := by split <;> norm_num
    calc |(roundUnits num den : ℚ) - num / den| ≤ roundoff * 2 ^ (dropped num den + 52) :=
          hsmall ▸ herror
      _ ≤ roundoff * (num / den) := mul_le_mul_of_nonneg_left hleading Binary64.roundoff_pos.le
      _ ≤ _ := le_add_of_nonneg_right hrest

end Magnitude

namespace Binary64

/-! ## Roundings of an exact result -/

/-- Half the power of two that ends the format. -/
def immense : ℚ := limit / 2 * unit

/-- A number is the rounding of an exact result `q`, up to an error `e` besides the relative one: it is a
number that is not negative and near to `q`, or it is infinite and `q` is immense. -/
inductive Rounds (e q : ℚ) : Binary64 → Prop where
  /-- near to the exact result -/
  | near {x : Binary64} (hx : x.isFinite = true) (hpos : 0 ≤ x.toRat)
    (herror : |x.toRat - q| ≤ roundoff * q + e) : Rounds e q x
  /-- beyond the largest number -/
  | overflow (hq : immense ≤ q) : Rounds e q (infinite false)

theorem toRat_finite (negative : Bool) (m : Magnitude) :
    (finite negative m).toRat = signedUnits negative m * unit := by
  rw [toRat, unit, mul_one_div]

theorem units_zero : Magnitude.zero.units = 0 := rfl

theorem toRat_zero (negative : Bool) : (finite negative .zero).toRat = 0 := by
  rw [toRat_finite, signedUnits_zero, Int.cast_zero, zero_mul]

/-- A zero is nothing rounded. -/
theorem rounds_zero (negative : Bool) {e : ℚ} (he : 0 ≤ e) : Rounds e 0 (finite negative .zero) := by
  refine .near rfl (toRat_zero negative).ge ?_
  simpa [toRat_zero] using he

/-- **What is rounded from a quotient of units** is so near to it. -/
theorem rounds_nearest (num : ℕ) {den : ℕ} (hden : 0 < den) :
    Rounds ((if den = 1 then 0 else 1 / 2) * unit) (num / den * unit) (nearest false num den) := by
  have herror := Magnitude.roundUnits_near num hden
  have hhalf : (if den = 1 then 0 else 1 / 2 : ℚ) ≤ 1 / 2 := by split <;> norm_num
  generalize (if den = 1 then 0 else 1 / 2 : ℚ) = e at herror hhalf ⊢
  have hunit := unit_pos
  by_cases hlimit : Magnitude.roundUnits num den < limit
  · obtain ⟨m, hround, hunits⟩ := Magnitude.exists_round_eq hlimit
    have hvalue : (finite false m).toRat = Magnitude.roundUnits num den * unit := by
      rw [toRat_finite, ← hunits]
      rfl
    rw [nearest_of_round hround]
    refine .near rfl ?_ ?_
    · rw [hvalue]
      exact mul_nonneg (Nat.cast_nonneg _) hunit.le
    · rw [hvalue, ← sub_mul, abs_mul, abs_of_pos hunit]
      calc _ ≤ (roundoff * (num / den) + e) * unit := mul_le_mul_of_nonneg_right herror hunit.le
        _ = _ := by ring
  · have hround : Magnitude.round num den = none := dif_neg hlimit
    have hinfinite : nearest false num den = infinite false := by
      unfold nearest
      rw [hround]
    rw [hinfinite]
    refine .overflow ?_
    have hbeyond : (limit : ℚ) ≤ Magnitude.roundUnits num den := Nat.cast_le.2 (Nat.le_of_not_lt hlimit)
    have hquotient : (0 : ℚ) ≤ num / den := by positivity
    have hrelative : roundoff * (num / den : ℚ) ≤ 1 / 2 * (num / den) :=
      mul_le_mul_of_nonneg_right roundoff_le hquotient
    have htwo : (2 : ℚ) ≤ limit := by
      have : 2 ≤ limit := by decide +kernel
      exact_mod_cast this
    refine mul_le_mul_of_nonneg_right ?_ hunit.le
    have habove := (abs_le.1 herror).2
    generalize (limit : ℚ) = top at hbeyond htwo ⊢
    linarith

/-- What is rounded from a whole number of units. -/
theorem rounds_nearest_one (n : ℕ) : Rounds 0 (n * unit) (nearest false n 1) := by
  simpa using rounds_nearest n Nat.one_pos

/-! ## Operations -/

/-- A finite number that is not negative has a whole number of units. -/
theorem exists_units {x : Binary64} (hx : x.isFinite = true) (hpos : 0 ≤ x.toRat) :
    ∃ n : ℕ, x.position = n ∧ x.toRat = n * unit := by
  have hunits : (0 : ℚ) < unitsPerOne := Nat.cast_pos.2 unitsPerOne_pos
  have hvalue := toRat_eq_position hx
  rw [hvalue, le_div_iff₀ hunits, zero_mul, Int.cast_nonneg_iff] at hpos
  obtain ⟨n, hn⟩ := Int.eq_ofNat_of_zero_le hpos
  refine ⟨n, hn, ?_⟩
  rw [hvalue, hn, unit, mul_one_div]
  rfl

/-- **Adding** numbers that are not negative. -/
theorem rounds_add {x y : Binary64} (hx : x.isFinite = true) (hy : y.isFinite = true)
    (hx0 : 0 ≤ x.toRat) (hy0 : 0 ≤ y.toRat) : Rounds 0 (x.toRat + y.toRat) (add x y) := by
  obtain ⟨m, hm, hxm⟩ := exists_units hx hx0
  obtain ⟨n, hn, hyn⟩ := exists_units hy hy0
  have hsum : x.toRat + y.toRat = ((m + n : ℕ) : ℚ) * unit := by
    rw [hxm, hyn, Nat.cast_add, add_mul]
  rw [hsum]
  match x, y with
  | finite s a, finite t b =>
    rw [position_finite] at hm hn
    have hunits : signedUnits s a + signedUnits t b = ((m + n : ℕ) : Int) := by
      rw [hm, hn, Nat.cast_add]
    simp only [add, hunits]
    split
    next hzero =>
      rw [Nat.cast_eq_zero.1 hzero, Nat.cast_zero, zero_mul]
      exact rounds_zero _ le_rfl
    next =>
      rw [decide_eq_false (Int.not_lt.2 (Int.natCast_nonneg _)), Int.natAbs_natCast]
      exact rounds_nearest_one _
  | nan, _ => cases hx
  | infinite _, _ => cases hx
  | finite _ _, nan => cases hy
  | finite _ _, infinite _ => cases hy

/-- A finite number that is not negative has no sign, unless it is a zero. -/
theorem eq_of_nonneg {x : Binary64} (hx : x.isFinite = true) (hpos : 0 ≤ x.toRat) :
    x = negativeZero ∨ ∃ m, x = finite false m ∧ x.toRat = m.units * unit := by
  match x with
  | finite false m => exact .inr ⟨m, rfl, toRat_finite false m⟩
  | finite true m =>
    left
    have hunits : m.units = 0 := by
      rw [toRat_finite, mul_nonneg_iff_of_pos_right unit_pos, Int.cast_nonneg_iff] at hpos
      simp only [signedUnits, if_true] at hpos
      omega
    rw [negativeZero, Magnitude.ext (a := m) (b := .zero) hunits]
  | nan => cases hx
  | infinite _ => cases hx

theorem Rounds.mono {e e' q : ℚ} {x : Binary64} (h : Rounds e q x) (he : e ≤ e') : Rounds e' q x := by
  cases h with
  | near hx hpos herror => exact .near hx hpos (herror.trans (by linarith))
  | overflow hq => exact .overflow hq

/-- **Multiplying** a number that is not negative by a count. -/
theorem rounds_mul {x : Binary64} (hx : x.isFinite = true) (hx0 : 0 ≤ x.toRat) {n : ℕ}
    (hn : n < 2 ^ precision) : Rounds 0 (n * x.toRat) (mul (ofNat n) x) := by
  obtain rfl | ⟨m, rfl, hm⟩ := eq_of_nonneg hx hx0
  · have hzero : mul (ofNat n) negativeZero = finite true .zero := by
      rw [ofNat_eq hn, negativeZero]
      simp only [mul, units_zero, Nat.mul_zero, Bool.false_xor]
      exact nearest_zero true unitsPerOne_pos
    rw [hzero, negativeZero, toRat_zero, mul_zero]
    exact rounds_zero true le_rfl
  · have hproduct : mul (ofNat n) (finite false m) = nearest false (n * m.units) 1 := by
      rw [ofNat_eq hn]
      simp only [mul, Bool.false_xor]
      rw [Nat.mul_right_comm]
      exact nearest_congr (Magnitude.roundUnits_mul _ unitsPerOne_pos) false
    rw [hproduct, hm, ← mul_assoc, ← Nat.cast_mul]
    exact rounds_nearest_one _

/-- **Dividing** a number that is not negative by a count. -/
theorem rounds_div {x : Binary64} (hx : x.isFinite = true) (hx0 : 0 ≤ x.toRat) {n : ℕ} (hn0 : 0 < n)
    (hn : n < 2 ^ precision) : Rounds (unit / 2) (x.toRat / n) (div x (ofNat n)) := by
  have hunits : n * unitsPerOne ≠ 0 := (Nat.mul_pos hn0 unitsPerOne_pos).ne'
  obtain rfl | ⟨m, rfl, hm⟩ := eq_of_nonneg hx hx0
  · have hzero : div negativeZero (ofNat n) = finite true .zero := by
      rw [ofNat_eq hn, negativeZero]
      simp only [div, if_neg hunits, units_zero, Nat.zero_mul, Bool.xor_false]
      exact nearest_zero true (Nat.pos_of_ne_zero hunits)
    rw [hzero, negativeZero, toRat_zero, zero_div]
    exact rounds_zero true (half_pos unit_pos).le
  · have hquotient : div (finite false m) (ofNat n) = nearest false m.units n := by
      rw [ofNat_eq hn]
      simp only [div, if_neg hunits, Bool.xor_false]
      exact nearest_congr (Magnitude.roundUnits_mul_mul _ _ unitsPerOne_pos) false
    have hvalue : (finite false m).toRat / n = m.units / n * unit := by
      rw [hm, mul_div_right_comm]
    rw [hquotient, hvalue]
    refine (rounds_nearest m.units hn0).mono ?_
    have hunit := unit_pos
    split <;> linarith

end Binary64

end FlowRuns
