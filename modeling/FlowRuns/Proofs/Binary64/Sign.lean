import FlowRuns.Proofs.Binary64.Position

/-!
# What the sign of a computed number is owed to

A sum of durations may overflow to an infinity, and sums that did may cancel to no number at all. Yet
a sum is above zero only if one of its terms is, and no number only if terms stood on both sides of
zero. That much survives every rounding, and multiplying or dividing by a positive number keeps it.

* `Binary64.SignOwed` — the invariant of a computed number.
* `Binary64.Positive` — the factors and divisors under which it is kept.
* `Binary64.positive_ofNat`, `Binary64.add_ofNat_bounded` — a count is such a number, and so is every
  sum of counts.
-/

namespace FlowRuns.Binary64

/-- Whenever a number is below zero `below` holds, whenever it is above zero `above` holds, and where
it is no number both do. -/
structure SignOwed (below above : Prop) (x : Binary64) : Prop where
  /-- what a positive number is owed to -/
  ofPositive : 0 < x.position → above
  /-- what a negative number is owed to -/
  ofNegative : x.position < 0 → below
  /-- what a missing number is owed to -/
  ofNaN : x.isNaN = true → below ∧ above

theorem unitsPerOne_pos : 0 < unitsPerOne := Nat.two_pow_pos unitExponent

/-- A finite number above zero. -/
def Positive (x : Binary64) : Prop := ∃ m, x = finite false m ∧ 0 < m.units

/-! ## Rounded results -/

theorem nearest_of_round {num den : Nat} {m : Magnitude} (h : Magnitude.round num den = some m)
    (negative : Bool) : nearest negative num den = finite negative m := by
  unfold nearest
  rw [h]

/-- Zero units are rounded to zero units. -/
theorem nearest_zero (negative : Bool) {den : Nat} (hden : 0 < den) :
    nearest negative 0 den = finite negative .zero := by
  have hzero := Magnitude.roundUnits_zero den hden
  have hlt : Magnitude.roundUnits 0 den < limit := by
    rw [hzero]
    exact limit_pos
  obtain ⟨m, hm, hunits⟩ := Magnitude.exists_round_eq hlt
  rw [nearest_of_round hm, Magnitude.ext (hunits.trans hzero : m.units = Magnitude.zero.units)]

/-- A rounded result is a number, on its own side of zero, and zero only rounds to zero. -/
theorem nearest_spec (negative : Bool) (num : Nat) {den : Nat} (hden : 0 < den) :
    (nearest negative num den).isNaN = false ∧
      (0 < (nearest negative num den).position → negative = false ∧ 0 < num) ∧
      ((nearest negative num den).position < 0 → negative = true ∧ 0 < num) := by
  by_cases h0 : num = 0
  · rw [h0, nearest_zero negative hden]
    simp [isNaN]
  · have hpos : 0 < num := Nat.pos_iff_ne_zero.2 h0
    unfold nearest
    cases Magnitude.round num den with
    | none =>
      obtain ⟨hpositive, hnegative⟩ := position_infinite_iff negative
      exact ⟨rfl, fun h => ⟨hpositive.1 h, hpos⟩, fun h => ⟨hnegative.1 h, hpos⟩⟩
    | some m => cases negative <;> simp [isNaN, signedUnits, hpos]

/-! ## What keeps the invariant -/

namespace SignOwed

variable {below above : Prop}

theorem zero (negative : Bool) : SignOwed below above (finite negative .zero) :=
  ⟨fun h => by simp at h, fun h => by simp at h, fun h => by simp [isNaN] at h⟩

/-- What an infinity is owed to. -/
theorem of_infinite {negative : Bool} (h : SignOwed below above (infinite negative)) :
    if negative then below else above := by
  cases negative with
  | true => exact h.ofNegative ((position_infinite_iff true).2.2 rfl)
  | false => exact h.ofPositive ((position_infinite_iff false).1.2 rfl)

/-- **Addition** keeps the invariant. -/
theorem add {x y : Binary64} (hx : SignOwed below above x) (hy : SignOwed below above y) :
    SignOwed below above (add x y) := by
  cases x with
  | nan => exact ⟨fun h => by simp [Binary64.add] at h, fun h => by simp [Binary64.add] at h,
      fun _ => hx.ofNaN rfl⟩
  | infinite s =>
    cases y with
    | nan => exact ⟨fun h => by simp [Binary64.add] at h, fun h => by simp [Binary64.add] at h,
        fun _ => hy.ofNaN rfl⟩
    | infinite t =>
      by_cases h : s = t
      · simpa [Binary64.add, h] using hy
      · -- infinities of both signs cancel
        have hs := hx.of_infinite
        have ht := hy.of_infinite
        refine ⟨fun hp => by simp [Binary64.add, h] at hp, fun hp => by simp [Binary64.add, h] at hp,
          fun _ => ?_⟩
        cases s <;> cases t <;> simp_all
    | finite t b => simpa [Binary64.add] using hx
  | finite s a =>
    cases y with
    | nan => exact ⟨fun h => by simp [Binary64.add] at h, fun h => by simp [Binary64.add] at h,
        fun _ => hy.ofNaN rfl⟩
    | infinite t => simpa [Binary64.add] using hy
    | finite t b =>
      have hxp := hx.ofPositive
      have hxn := hx.ofNegative
      have hyp := hy.ofPositive
      have hyn := hy.ofNegative
      simp only [position_finite] at hxp hxn hyp hyn
      unfold Binary64.add
      dsimp only
      generalize signedUnits s a = u at hxp hxn
      generalize signedUnits t b = v at hyp hyn
      split
      · exact zero _
      · obtain ⟨hnum, hpos, hneg⟩ := nearest_spec (decide (u + v < 0)) (u + v).natAbs
          Nat.one_pos
        refine ⟨fun h => ?_, fun h => ?_, fun h => by rw [hnum] at h; cases h⟩
        · have := (hpos h).1
          simp only [decide_eq_false_iff_not] at this
          rcases Int.lt_or_le 0 u with hu | hu
          · exact hxp hu
          · exact hyp (by omega)
        · have := (hneg h).1
          simp only [decide_eq_true_eq] at this
          rcases Int.lt_or_le u 0 with hu | hu
          · exact hxn hu
          · exact hyn (by omega)

/-- A rounded multiple of a number's units, with the number's sign, keeps the invariant. -/
theorem nearest_mul {s : Bool} {a : Magnitude} (h : SignOwed below above (finite s a))
    (factor : Nat) {den : Nat} (hden : 0 < den) :
    SignOwed below above (nearest s (a.units * factor) den) := by
  obtain ⟨hnum, hpos, hneg⟩ := nearest_spec s (a.units * factor) hden
  refine ⟨fun hp => ?_, fun hn => ?_, fun hnan => by rw [hnum] at hnan; cases hnan⟩
  · obtain ⟨rfl, hunits⟩ := hpos hp
    have := Nat.pos_of_mul_pos_right hunits
    exact h.ofPositive (by simp [signedUnits]; omega)
  · obtain ⟨rfl, hunits⟩ := hneg hn
    have := Nat.pos_of_mul_pos_right hunits
    exact h.ofNegative (by simp [signedUnits]; omega)

/-- **Multiplication by a positive number** keeps the invariant. -/
theorem mul_positive {x y : Binary64} (hx : Positive x) (hy : SignOwed below above y) :
    SignOwed below above (mul x y) := by
  obtain ⟨m, rfl, hm⟩ := hx
  have hne : m.units ≠ 0 := Nat.pos_iff_ne_zero.1 hm
  cases y with
  | nan => exact hy
  | infinite t => simpa [mul, hne] using hy
  | finite t b =>
    simpa [mul, Nat.mul_comm m.units] using hy.nearest_mul m.units unitsPerOne_pos

/-- **Division by a positive number** keeps the invariant. -/
theorem div_positive {x y : Binary64} (hx : SignOwed below above x) (hy : Positive y) :
    SignOwed below above (div x y) := by
  obtain ⟨m, rfl, hm⟩ := hy
  have hne : m.units ≠ 0 := Nat.pos_iff_ne_zero.1 hm
  cases x with
  | nan => exact hx
  | infinite s => simpa [div] using hx
  | finite s a => simpa [div, hne] using hx.nearest_mul unitsPerOne hm

end SignOwed

/-! ## Counts and sums of counts -/

/-- `2 ^ 64`, at least every count of 64 bits. -/
def countBound : Magnitude := ⟨UInt64.size * unitsPerOne, by decide +kernel, by decide +kernel⟩

theorem units_countBound : countBound.units = UInt64.size * unitsPerOne := rfl

/-- `2 ^ 120`, so much that a count added to it is lost in rounding. -/
def weightBound : Magnitude :=
  ⟨0x100000000000000 * UInt64.size * unitsPerOne, by decide +kernel, by decide +kernel⟩

/-- A positive number of units up to one that is rounded to a magnitude gives a positive number up
to that magnitude. -/
theorem nearest_bounded {n bound : Nat} {m : Magnitude} (hpos : 0 < n) (hle : n ≤ bound)
    (hround : Magnitude.roundUnits bound 1 = m.units) (negative : Bool) :
    ∃ k, nearest negative n 1 = finite negative k ∧ 0 < k.units ∧ k.units ≤ m.units := by
  have hk : Magnitude.roundUnits n 1 ≤ m.units := hround ▸ Magnitude.roundUnits_mono hle 1
  obtain ⟨k, hround, hunits⟩ :=
    Magnitude.exists_round_eq (Nat.lt_of_le_of_lt hk m.representable.1)
  refine ⟨k, nearest_of_round hround negative, ?_, hunits ▸ hk⟩
  rw [hunits]
  exact Magnitude.roundUnits_pos hpos

/-- **A count** of 64 bits is a positive number. -/
theorem ofNat_bounded {n : Nat} (hpos : 0 < n) (hle : n ≤ UInt64.size) :
    ∃ m, ofNat n = finite false m ∧ 0 < m.units ∧ m.units ≤ countBound.units := by
  have hbound : n * unitsPerOne ≤ countBound.units := by
    rw [units_countBound]
    exact Nat.mul_le_mul_right _ hle
  exact nearest_bounded (Nat.mul_pos hpos unitsPerOne_pos) hbound
    (Magnitude.roundUnits_units countBound) false

theorem positive_ofNat {n : Nat} (hpos : 0 < n) (hle : n ≤ UInt64.size) : Positive (ofNat n) := by
  obtain ⟨m, hm, hunits, -⟩ := ofNat_bounded hpos hle
  exact ⟨m, hm, hunits⟩

/-- **A sum of counts**, however many they are, stays a positive number: from the bound on it grows
no more. -/
theorem add_ofNat_bounded {w : Magnitude} (hw : w.units ≤ weightBound.units) {n : Nat}
    (hpos : 0 < n) (hle : n ≤ UInt64.size) :
    ∃ m, add (finite false w) (ofNat n) = finite false m ∧ 0 < m.units ∧
      m.units ≤ weightBound.units := by
  obtain ⟨c, hc, hcpos, hcle⟩ := ofNat_bounded hpos hle
  have hsum : signedUnits false w + signedUnits false c = ((w.units + c.units : Nat) : Int) := by
    simp [signedUnits]
  have hne : ((w.units + c.units : Nat) : Int) ≠ 0 := by omega
  have hnonneg : decide (((w.units + c.units : Nat) : Int) < 0) = false := by
    simp only [decide_eq_false_iff_not]
    omega
  have hadd : add (finite false w) (finite false c) = nearest false (w.units + c.units) 1 := by
    simp only [add, hsum, if_neg hne, hnonneg, Int.natAbs_natCast]
  rw [hc, hadd]
  exact nearest_bounded (by omega) (Nat.add_le_add hw hcle) (by decide +kernel) false

end FlowRuns.Binary64
