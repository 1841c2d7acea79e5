import FlowRuns.Proofs.Binary64.Sign

/-!
# Zero, one and counts in arithmetic

Adding zero, multiplying by one and dividing by one round nothing: each gives the number itself. Only the
sign of a zero may be lost, since a zero and a negative zero add up to zero. Adding counts rounds nothing
either, as long as they have no more than 53 digits.

* `Binary64.zero_add`, `Binary64.negativeZero_add` — what adding to a zero gives.
* `Binary64.foldl_add_zero` — a sum that begins with zero is one that begins with negative zero, added to
  zero.
* `Binary64.representable_mul`, `Binary64.ofNat_eq`, `Binary64.ofNat_add_ofNat` — **counts** are not rounded.
* `Binary64.one_mul`, `Binary64.div_one` — the number itself.
* `Binary64.zero_add_div` — the sign of a zero that is divided makes no other difference.
-/

namespace FlowRuns

namespace Magnitude

/-! ## Exact quotients -/

/-- A common factor does not show in a rounded quotient. -/
theorem roundHalfEven_mul_mul (num den : Nat) {c : Nat} (hc : 0 < c) :
    roundHalfEven (num * c) (den * c) = roundHalfEven num den := by
  have hbelow : 2 * (num % den * c) < den * c ↔ 2 * (num % den) < den := by
    rw [← Nat.mul_assoc, Nat.mul_lt_mul_right hc]
  have habove : den * c < 2 * (num % den * c) ↔ den < 2 * (num % den) := by
    rw [← Nat.mul_assoc, Nat.mul_lt_mul_right hc]
  unfold roundHalfEven
  simp only [Nat.mul_div_mul_right _ _ hc, Nat.mul_mod_mul_right, hbelow, habove]

/-- A quotient without remainder is rounded as the whole number that it is. -/
theorem roundUnits_mul (n : Nat) {den : Nat} (hden : 0 < den) :
    roundUnits (n * den) den = roundUnits n 1 := by
  have hdropped : dropped (n * den) den = dropped n 1 := by
    rw [dropped, dropped, Nat.mul_div_cancel _ hden, Nat.div_one]
  rw [roundUnits, roundUnits, hdropped, Nat.mul_comm den, roundHalfEven_mul_mul _ _ hden, Nat.one_mul]

/-- A quotient that is a magnitude is not rounded at all. -/
theorem round_mul (m : Magnitude) {den : Nat} (hden : 0 < den) : round (m.units * den) den = some m := by
  have hunits : roundUnits (m.units * den) den = m.units := by
    rw [roundUnits_mul _ hden, roundUnits_units]
  obtain ⟨k, hk, heq⟩ := exists_round_eq (by rw [hunits]; exact m.representable.1)
  rw [hk, ext (heq.trans hunits)]

/-- A common factor does not show in a rounded number of units. -/
theorem roundUnits_mul_mul (num den : Nat) {c : Nat} (hc : 0 < c) :
    roundUnits (num * c) (den * c) = roundUnits num den := by
  have hdropped : dropped (num * c) (den * c) = dropped num den := by
    rw [dropped, dropped, Nat.mul_div_mul_right _ _ hc]
  rw [roundUnits, roundUnits, hdropped, Nat.mul_right_comm, roundHalfEven_mul_mul _ _ hc]

end Magnitude

namespace Binary64

/-- Quotients that are rounded alike are the same number. -/
theorem nearest_congr {num den num' den' : Nat}
    (h : Magnitude.roundUnits num den = Magnitude.roundUnits num' den') (negative : Bool) :
    nearest negative num den = nearest negative num' den' := by
  have hround : Magnitude.round num den = Magnitude.round num' den' := by
    unfold Magnitude.round
    simp only [h]
  unfold nearest
  rw [hround]

theorem nearest_mul (negative : Bool) (m : Magnitude) {den : Nat} (hden : 0 < den) :
    nearest negative (m.units * den) den = finite negative m :=
  nearest_of_round (Magnitude.round_mul m hden) negative

/-! ## Adding zero -/

theorem signedUnits_eq_zero_iff {s : Bool} {m : Magnitude} : signedUnits s m = 0 ↔ m = .zero := by
  refine ⟨fun h => Magnitude.ext ?_, fun h => by rw [h, signedUnits_zero]⟩
  change m.units = 0
  unfold signedUnits at h
  split at h <;> omega

/-- Adding to a zero of whatever sign gives the number itself, unless that is a zero as well. -/
theorem signedZero_add {x : Binary64} (hx : ∀ s, x ≠ finite s .zero) (t : Bool) :
    add (finite t .zero) x = x := by
  cases x with
  | nan => rfl
  | infinite s => rfl
  | finite s m =>
    have hsigned : signedUnits s m ≠ 0 := fun h => hx s (by rw [signedUnits_eq_zero_iff.1 h])
    have hsign : decide (signedUnits s m < 0) = s := by
      unfold signedUnits at hsigned ⊢
      cases s with
      | false =>
        rw [if_neg Bool.false_ne_true]
        exact decide_eq_false (Int.not_lt.2 (Int.natCast_nonneg _))
      | true =>
        rw [if_pos rfl] at hsigned ⊢
        exact decide_eq_true (by omega)
    have hunits : (signedUnits s m).natAbs = m.units * 1 := by
      unfold signedUnits
      split <;> omega
    simp only [add, signedUnits_zero, Int.zero_add, if_neg hsigned, hsign, hunits]
    exact nearest_mul s m Nat.one_pos

/-- **Adding to zero** gives the number itself, but for a negative zero. -/
theorem zero_add (x : Binary64) : add zero x = if x = negativeZero then zero else x := by
  by_cases hx : ∃ s, x = finite s .zero
  · obtain ⟨s, rfl⟩ := hx
    cases s <;> rfl
  · rw [not_exists] at hx
    rw [if_neg (show x ≠ negativeZero from hx true)]
    exact signedZero_add hx false

/-- **Adding to negative zero** gives the number itself. -/
theorem negativeZero_add (x : Binary64) : add negativeZero x = x := by
  by_cases hx : ∃ s, x = finite s .zero
  · obtain ⟨s, rfl⟩ := hx
    cases s <;> rfl
  · rw [not_exists] at hx
    exact signedZero_add hx true

/-- What is rounded from a positive number of units is no zero. -/
theorem nearest_ne_zero {n : Nat} (hn : 0 < n) (negative s : Bool) :
    nearest negative n 1 ≠ finite s .zero := by
  have hpos := Magnitude.roundUnits_pos hn
  unfold nearest Magnitude.round
  split
  next m hm =>
    split at hm
    · intro h
      obtain ⟨-, rfl⟩ := finite.inj h
      have hunits : Magnitude.roundUnits n 1 = 0 := congrArg Magnitude.units (Option.some.inj hm)
      omega
    · cases hm
  next =>
    intro h
    cases h

/-- A sum is a negative zero only if both terms are. -/
theorem add_eq_negativeZero {x y : Binary64} (h : add x y = negativeZero) :
    x = negativeZero ∧ y = negativeZero := by
  match x, y with
  | nan, _ => cases h
  | infinite _, nan => cases h
  | finite _ _, nan => cases h
  | infinite s, infinite t =>
    simp only [add] at h
    split at h <;> cases h
  | infinite _, finite _ _ => cases h
  | finite _ _, infinite _ => cases h
  | finite s a, finite t b =>
    simp only [add] at h
    split at h
    next hsum =>
      -- of two terms below or at zero that add up to zero, neither is below
      obtain ⟨hsign, -⟩ := finite.inj h
      rw [Bool.and_eq_true] at hsign
      obtain ⟨rfl, rfl⟩ := hsign
      simp only [signedUnits, if_true] at hsum
      have ha : a = .zero := Magnitude.ext (show a.units = 0 by omega)
      have hb : b = .zero := Magnitude.ext (show b.units = 0 by omega)
      rw [ha, hb]
      exact ⟨rfl, rfl⟩
    next hsum => exact absurd h (nearest_ne_zero (Int.natAbs_pos.2 hsum) _ _)

/-- What a zero is added to, it may as well be added to before. -/
theorem zero_add_add (x y : Binary64) : add (add zero x) y = add zero (add x y) := by
  by_cases hx : x = negativeZero
  · rw [hx, negativeZero_add]
    rfl
  · rw [zero_add x, if_neg hx, zero_add, if_neg fun h => hx (add_eq_negativeZero h).1]

/-- **A sum that begins with zero** is one that begins with negative zero, added to zero. -/
theorem foldl_add_zero (ds : List Binary64) :
    ds.foldl add zero = add zero (ds.foldl add negativeZero) := by
  have hstart (x : Binary64) : ds.foldl add (add zero x) = add zero (ds.foldl add x) := by
    induction ds generalizing x with
    | nil => rfl
    | cons d ds ih => rw [List.foldl_cons, List.foldl_cons, zero_add_add, ih]
  exact hstart negativeZero

/-! ## Counts -/

/-- Powers are those of the natural numbers themselves, whatever else is imported. -/
local instance (priority := 2000) powerInCounts : Pow Nat Nat := instPowNat

/-- A whole number of no more than 53 digits has a place times a power of two, short of the end of the format. -/
theorem representable_mul {n e : Nat} (hn : n < 2 ^ precision) (he : e + precision ≤ endExponent) :
    Representable (n * 2 ^ e) := by
  have hbelow : n * 2 ^ e < 2 ^ (precision + e) := by
    rw [Nat.pow_add]
    exact Nat.mul_lt_mul_of_pos_right hn (Nat.two_pow_pos e)
  refine ⟨Nat.lt_of_lt_of_le hbelow (Nat.pow_le_pow_right Nat.two_pos (by omega)), ?_⟩
  obtain rfl | hpos := Nat.eq_zero_or_pos n
  · rw [Nat.zero_mul]
    exact Nat.dvd_zero _
  · have hlog := (Nat.log2_lt (Nat.ne_of_gt (Nat.mul_pos hpos (Nat.two_pow_pos e)))).2 hbelow
    have hdigits : (n * 2 ^ e).log2 - 52 ≤ e := by
      unfold precision at hlog
      omega
    exact Nat.dvd_trans (Nat.pow_dvd_pow 2 hdigits) (Nat.dvd_mul_left _ _)

theorem representable_count {n : Nat} (hn : n < 2 ^ precision) : Representable (n * unitsPerOne) :=
  representable_mul hn (by decide)

/-- **A count** is not rounded if it has no more than 53 digits. -/
theorem ofNat_eq {n : Nat} (hn : n < 2 ^ precision) :
    ofNat n = finite false ⟨n * unitsPerOne, representable_count hn⟩ := by
  have h := nearest_mul false ⟨n * unitsPerOne, representable_count hn⟩ Nat.one_pos
  rwa [Nat.mul_one] at h

/-- Numbers without a sign are added by their units. -/
theorem add_finite_false (a b : Magnitude) :
    add (finite false a) (finite false b) = nearest false (a.units + b.units) 1 := by
  have hsum : signedUnits false a + signedUnits false b = ((a.units + b.units : Nat) : Int) := rfl
  simp only [add, hsum]
  split
  next hzero =>
    have hunits : a.units + b.units = 0 := Int.natCast_eq_zero.1 hzero
    rw [hunits, nearest_zero false Nat.one_pos]
    rfl
  next =>
    rw [decide_eq_false (Int.not_lt.2 (Int.natCast_nonneg _)), Int.natAbs_natCast]

/-- **Adding counts** rounds nothing either. -/
theorem ofNat_add_ofNat {a b : Nat} (h : a + b < 2 ^ precision) : add (ofNat a) (ofNat b) = ofNat (a + b) := by
  rw [ofNat_eq (Nat.lt_of_le_of_lt (Nat.le_add_right a b) h),
    ofNat_eq (Nat.lt_of_le_of_lt (Nat.le_add_left b a) h), add_finite_false, ofNat, Nat.add_mul]

/-! ## One as a factor and as a divisor -/

/-- One, in units. -/
def one : Magnitude := ⟨unitsPerOne, by decide +kernel, by decide +kernel⟩

theorem ofNat_one : ofNat 1 = finite false one := by
  have hunits : one.units = unitsPerOne := rfl
  rw [ofNat, Nat.one_mul, ← hunits, ← Nat.mul_one one.units]
  exact nearest_mul false one Nat.one_pos

/-- **Multiplying by one** gives the number itself. -/
theorem one_mul (x : Binary64) : mul (ofNat 1) x = x := by
  have hone : one.units ≠ 0 := Nat.ne_of_gt unitsPerOne_pos
  rw [ofNat_one]
  cases x with
  | nan => rfl
  | infinite s => simp [mul, hone]
  | finite s m =>
    simp only [mul, Bool.false_xor, Nat.mul_comm one.units]
    exact nearest_mul s m unitsPerOne_pos

/-- **Dividing by one** gives the number itself. -/
theorem div_one (x : Binary64) : div x (ofNat 1) = x := by
  have hone : one.units ≠ 0 := Nat.ne_of_gt unitsPerOne_pos
  rw [ofNat_one]
  cases x with
  | nan => rfl
  | infinite s => simp [div]
  | finite s m =>
    simp only [div, if_neg hone, Bool.xor_false]
    exact nearest_mul s m unitsPerOne_pos

/-! ## Dividing a zero -/

/-- A zero of whatever sign makes a zero or no number of its quotient. -/
theorem zero_add_signedZero_div (s : Bool) (y : Binary64) :
    add zero (div (finite s .zero) y) = add zero (div zero y) := by
  have hsigns (s s' : Bool) : add zero (finite s .zero) = add zero (finite s' .zero) := by
    cases s <;> cases s' <;> rfl
  have hunits : Magnitude.zero.units = 0 := rfl
  cases y with
  | nan => rfl
  | infinite t => exact hsigns _ _
  | finite t b =>
    by_cases hb : b.units = 0
    · simp only [zero, div, if_pos hb, if_pos hunits]
    · simp only [zero, div, if_neg hb, hunits, Nat.zero_mul, nearest_zero _ (Nat.pos_of_ne_zero hb)]
      exact hsigns _ _

/-- **The sign of a zero that is divided** makes a difference only to the sign of a zero. -/
theorem zero_add_div (x y : Binary64) : add zero (div (add zero x) y) = add zero (div x y) := by
  rw [zero_add x]
  split
  next hx => rw [hx, negativeZero, zero_add_signedZero_div]
  next => rfl

end Binary64

end FlowRuns
