import FlowRuns.Binary64.Basic

/-!
# Rounding keeps the order

A quotient that is at least another one is rounded to a magnitude that is at least the other's.
Together with exactness on the format, this bounds a rounded quotient by every magnitude that
bounds the quotient itself, without a word about how large the error of rounding is. The largest
magnitude bounds all of them.
-/

namespace FlowRuns.Magnitude

/-- Powers are those of the natural numbers themselves, whatever else is imported. -/
local instance (priority := 2000) powerInRounding : Pow Nat Nat := instPowNat

/-! ## Whole quotients -/

/-- Rounding to a whole number never goes below the floor. -/
theorem div_le_roundHalfEven (num den : Nat) : num / den ≤ roundHalfEven num den := by
  unfold roundHalfEven
  dsimp only
  split
  · exact Nat.le_refl _
  · split <;> omega

theorem roundHalfEven_zero (den : Nat) (hden : 0 < den) : roundHalfEven 0 den = 0 := by
  simpa using roundHalfEven_mul 0 den hden

/-- Rounding to a whole number is monotone. -/
theorem roundHalfEven_mono {m n : Nat} (h : m ≤ n) (den : Nat) :
    roundHalfEven m den ≤ roundHalfEven n den := by
  rcases Nat.lt_or_eq_of_le (Nat.div_le_div_right (c := den) h) with hlt | heq
  · calc roundHalfEven m den ≤ m / den + 1 := roundHalfEven_le m den
      _ ≤ n / den := hlt
      _ ≤ roundHalfEven n den := div_le_roundHalfEven n den
  · -- with equal floors the remainders decide, and they stand in the order of the numerators
    have hrem : m % den ≤ n % den := by
      have hm := Nat.div_add_mod m den
      have hn := Nat.div_add_mod n den
      rw [heq] at hm
      omega
    unfold roundHalfEven
    dsimp only
    rw [heq]
    repeat' split
    all_goals omega

/-! ## Quotients in the format -/

theorem log2_mono {m n : Nat} (h : m ≤ n) : m.log2 ≤ n.log2 := by
  rcases Nat.eq_zero_or_pos m with rfl | hpos
  · simp
  · have hm : m ≠ 0 := Nat.pos_iff_ne_zero.1 hpos
    rw [Nat.le_log2 (by omega)]
    exact Nat.le_trans (Nat.log2_self_le hm) h

/-- What rounding gives stays below the power of two after the 53 digits that are kept. -/
theorem roundUnits_le_two_pow (num den : Nat) :
    roundUnits num den ≤ 2 ^ (Binary64.precision + dropped num den) := by
  unfold roundUnits
  rw [Nat.pow_add]
  exact Nat.mul_le_mul_right _ (roundHalfEven_dropped_le num den)

/-- Where digits are dropped, what rounding gives keeps the leading one. -/
theorem two_pow_le_roundUnits {num den : Nat} (h : 52 < (num / den).log2) :
    2 ^ (num / den).log2 ≤ roundUnits num den := by
  have hne : num / den ≠ 0 := by
    intro h0
    rw [h0] at h
    simp at h
  have hsum : (num / den).log2 = 52 + dropped num den := by
    unfold dropped
    omega
  have hself := Nat.log2_self_le hne
  unfold roundUnits
  rw [hsum, Nat.pow_add] at hself ⊢
  refine Nat.mul_le_mul_right _ ?_
  calc 2 ^ 52 ≤ num / den / 2 ^ dropped num den := by
        rwa [Nat.le_div_iff_mul_le (Nat.two_pow_pos _)]
    _ = num / (den * 2 ^ dropped num den) := Nat.div_div_eq_div_mul _ _ _
    _ ≤ _ := div_le_roundHalfEven _ _

/-- **Rounding is monotone** in the numerator. -/
theorem roundUnits_mono {m n : Nat} (h : m ≤ n) (den : Nat) :
    roundUnits m den ≤ roundUnits n den := by
  have hlog : (m / den).log2 ≤ (n / den).log2 := log2_mono (Nat.div_le_div_right h)
  by_cases heq : dropped m den = dropped n den
  · unfold roundUnits
    rw [heq]
    exact Nat.mul_le_mul_right _ (roundHalfEven_mono h _)
  · -- the larger quotient has more digits: a power of two stands between the two results
    have hdrop : Binary64.precision + dropped m den ≤ (n / den).log2 ∧ 52 < (n / den).log2 := by
      unfold dropped at heq ⊢
      unfold Binary64.precision
      omega
    calc roundUnits m den ≤ 2 ^ (Binary64.precision + dropped m den) := roundUnits_le_two_pow m den
      _ ≤ 2 ^ (n / den).log2 := Nat.pow_le_pow_right (by decide) hdrop.1
      _ ≤ roundUnits n den := two_pow_le_roundUnits hdrop.2

theorem roundUnits_zero (den : Nat) (hden : 0 < den) : roundUnits 0 den = 0 := by
  unfold roundUnits
  rw [roundHalfEven_zero _ (Nat.mul_pos hden (Nat.two_pow_pos _)), Nat.zero_mul]

/-- A magnitude is its own rounding. -/
theorem roundUnits_units (m : Magnitude) : roundUnits m.units 1 = m.units := by
  have h := round_units m
  unfold round at h
  split at h
  · exact congrArg units (Option.some.inj h)
  · cases h

/-- One unit, the least positive magnitude. -/
def least : Magnitude := ⟨1, by decide +kernel, by decide +kernel⟩

/-- A positive whole number of units is not rounded to nothing. -/
theorem roundUnits_pos {n : Nat} (h : 0 < n) : 0 < roundUnits n 1 := by
  have hleast := roundUnits_mono (m := least.units) (n := n) h 1
  rw [roundUnits_units least] at hleast
  exact Nat.lt_of_lt_of_le Nat.one_pos hleast

/-- Rounding gives a magnitude as soon as the rounded number of units is below the limit. -/
theorem exists_round_eq {num den : Nat} (h : roundUnits num den < Binary64.limit) :
    ∃ m, round num den = some m ∧ m.units = roundUnits num den := by
  unfold round
  rw [dif_pos h]
  exact ⟨_, rfl, rfl⟩

/-! ## The end of the format -/

theorem units_largest : largest.units =
    (2 ^ Binary64.precision - 1) * 2 ^ (Binary64.endExponent - Binary64.precision) := by
  decide +kernel

/-- No magnitude is above the largest: below the limit there is no place for more digits. -/
theorem units_le_largest (m : Magnitude) : m.units ≤ largest.units := by
  obtain ⟨u, hlimit, q, hq⟩ := m
  rw [units_largest]
  change u ≤ _
  rcases Nat.eq_zero_or_pos u with rfl | hpos
  · exact Nat.zero_le _
  have hlog : u.log2 < Binary64.endExponent :=
    (Nat.log2_lt (Nat.pos_iff_ne_zero.1 hpos)).2 hlimit
  have hend : u.log2 - 52 ≤ Binary64.endExponent - Binary64.precision := by
    unfold Binary64.endExponent Binary64.precision at *
    omega
  have hlt : u < 2 ^ (Binary64.precision + (u.log2 - 52)) := by
    refine Nat.lt_of_lt_of_le Nat.lt_log2_self (Nat.pow_le_pow_right (by decide) ?_)
    unfold Binary64.precision
    omega
  generalize u.log2 - 52 = e at hq hend hlt
  -- above the last `e` digits, all of them zero, there are 53 at most
  rw [hq, Nat.pow_add, Nat.mul_comm] at hlt
  have hdigits : q < 2 ^ Binary64.precision := Nat.lt_of_mul_lt_mul_right hlt
  rw [hq, Nat.mul_comm]
  exact Nat.mul_le_mul (Nat.le_sub_one_of_lt hdigits) (Nat.pow_le_pow_right (by decide) hend)

end FlowRuns.Magnitude
