import Mathlib.Algebra.Order.Ring.Pow
import Mathlib.Algebra.BigOperators.Group.List.Basic
import FlowRuns.Proofs.Binary64.Error

/-!
# The error of many operations

Numbers that are not negative are added, multiplied by counts and divided by counts, each step rounded. How
far what is computed in the end may be from what exact arithmetic gives depends on how many steps come after
one another, and not on their order: `k` of them change it by a factor of `(1 + 2⁻⁵³) ^ k` at most, and what
is lost below the last place adds to that.

* `Binary64.hair` — how far `k` steps may carry a value.
* `Binary64.Near` — a number is so near to a value, or infinite where the value is large.
* `Binary64.Near.add`, `Binary64.Near.mul`, `Binary64.Near.div` — **one step more.**
* `Binary64.near_foldl_add` — a sum in whatever order.
-/

namespace FlowRuns.Binary64

/-! ## How far steps carry -/

/-- How far from `v` a number may be after `k` roundings, where `c` was lost below the last place. -/
def hair (k : ℕ) (c v : ℚ) : ℚ := (1 + roundoff) ^ k * (v + c) - v

section Hair

variable {k k' : ℕ} {c c' v v' : ℚ}

theorem one_le_pow (k : ℕ) : 1 ≤ (1 + roundoff) ^ k :=
  one_le_pow₀ (le_add_of_nonneg_right roundoff_pos.le)

/-- So many roundings do not double a number. -/
theorem pow_le_two (hk : k ≤ 2 ^ 52) : (1 + roundoff) ^ k ≤ 2 := by
  have hpos := roundoff_pos
  have hle := roundoff_le
  have hcount : (k : ℚ) * roundoff ≤ 1 / 2 := by
    have hk' : (k : ℚ) ≤ 2 ^ 52 := by exact_mod_cast hk
    calc (k : ℚ) * roundoff ≤ 2 ^ 52 * roundoff := mul_le_mul_of_nonneg_right hk' hpos.le
      _ = 1 / 2 := by norm_num [roundoff, precision]
  have hdown : 1 / 2 ≤ (1 - roundoff) ^ k := by
    have h := one_add_mul_le_pow (show -2 ≤ -roundoff by linarith) k
    rw [← sub_eq_add_neg] at h
    linarith
  have hboth : (1 + roundoff) ^ k * (1 - roundoff) ^ k ≤ 1 := by
    rw [← mul_pow]
    exact pow_le_one₀ (by nlinarith) (by nlinarith)
  nlinarith [one_le_pow k]

theorem hair_zero (v : ℚ) : hair 0 0 v = 0 := by
  simp [hair]

theorem hair_mono (hk : k ≤ k') (hc : c ≤ c') (hvc : 0 ≤ v + c) : hair k c v ≤ hair k' c' v := by
  have hpow : (1 + roundoff) ^ k ≤ (1 + roundoff) ^ k' :=
    pow_le_pow_right₀ (le_add_of_nonneg_right roundoff_pos.le) hk
  refine sub_le_sub_right (mul_le_mul hpow (by linarith) hvc ?_) v
  exact (one_le_pow k').trans' zero_le_one

theorem hair_nonneg (hv : 0 ≤ v) (hc : 0 ≤ c) : 0 ≤ hair k c v := by
  have h := hair_mono (Nat.zero_le k) hc (by simpa using hv)
  rwa [hair_zero] at h

theorem hair_add : hair k c v + hair k c' v' = hair k (c + c') (v + v') := by
  unfold hair
  ring

theorem hair_mul (a : ℚ) : a * hair k c v = hair k (a * c) (a * v) := by
  unfold hair
  ring

end Hair

/-! ## Numbers near a value -/

/-- A number that is not negative and a hair away from `v` at most; or an infinite one, and `v` is at least
`large`. -/
inductive Near (k : ℕ) (c large v : ℚ) : Binary64 → Prop where
  /-- a finite number -/
  | finite {x : Binary64} (hx : x.isFinite = true) (hpos : 0 ≤ x.toRat)
    (herror : |x.toRat - v| ≤ hair k c v) : Near k c large v x
  /-- an infinite one -/
  | infinite (hlarge : large ≤ v) : Near k c large v (infinite false)

variable {k k' : ℕ} {c c' large v v' : ℚ} {x y : Binary64}

/-- A number is its own value. -/
theorem near_self (hx : x.isFinite = true) (hpos : 0 ≤ x.toRat) : Near 0 0 large x.toRat x :=
  .finite hx hpos (by rw [sub_self, abs_zero, hair_zero])

theorem near_zero (negative : Bool) (large : ℚ) : Near 0 0 large 0 (.finite negative .zero) := by
  have hzero := toRat_zero negative
  exact hzero ▸ near_self rfl hzero.ge

theorem Near.mono (h : Near k c large v x) (hk : k ≤ k') (hc : c ≤ c') (hvc : 0 ≤ v + c) :
    Near k' c' large v x := by
  cases h with
  | finite hx hpos herror => exact .finite hx hpos (herror.trans (hair_mono hk hc hvc))
  | infinite hlarge => exact .infinite hlarge

/-- **One rounding more**: what is rounded from an exact result that is near to a value is near to it. -/
theorem Near.of_rounds {e q : ℚ} (hround : Rounds e q x) (he : 0 ≤ e) (hq : |q - v| ≤ hair k c v)
    (hv : 0 ≤ v) (hc : 0 ≤ c) (hk : k ≤ 2 ^ 52) (hlarge : large + c ≤ immense / 2) :
    Near (k + 1) (c + e) large v x := by
  have habove : q ≤ (1 + roundoff) ^ k * (v + c) := by
    have := (abs_le.1 hq).2
    unfold hair at this
    linarith
  cases hround with
  | near hx hpos herror =>
    refine .finite hx hpos ?_
    have hpow := one_le_pow (k + 1)
    calc |x.toRat - v| ≤ |x.toRat - q| + |q - v| := abs_sub_le _ _ _
      _ ≤ roundoff * q + e + hair k c v := add_le_add herror hq
      _ ≤ roundoff * ((1 + roundoff) ^ k * (v + c)) + e + hair k c v := by
        have := mul_le_mul_of_nonneg_left habove roundoff_pos.le
        linarith
      _ = (1 + roundoff) ^ (k + 1) * (v + c) + e - v := by
        unfold hair
        ring
      _ ≤ (1 + roundoff) ^ (k + 1) * (v + (c + e)) - v := by nlinarith
  | overflow himmense =>
    -- the exact result is at most twice the value and what was lost, so these are immense too
    refine .infinite ?_
    have hdouble : (1 + roundoff) ^ k * (v + c) ≤ 2 * (v + c) :=
      mul_le_mul_of_nonneg_right (pow_le_two hk) (by linarith)
    linarith

/-! ## Steps -/

/-- **A sum of two** is near to the sum of their values. -/
theorem Near.add (hx : Near k c large v x) (hy : Near k c' large v' y) (hv : 0 ≤ v) (hv' : 0 ≤ v')
    (hc : 0 ≤ c) (hc' : 0 ≤ c') (hk : k ≤ 2 ^ 52) (hlarge : large + (c + c') ≤ immense / 2) :
    Near (k + 1) (c + c') large (v + v') (add x y) := by
  cases hx with
  | finite hx hx0 hxerror =>
    cases hy with
    | finite hy hy0 hyerror =>
      have hsum : |x.toRat + y.toRat - (v + v')| ≤ hair k (c + c') (v + v') := by
        rw [add_sub_add_comm, ← hair_add]
        exact (abs_add_le _ _).trans (add_le_add hxerror hyerror)
      have h := Near.of_rounds (rounds_add hx hy hx0 hy0) le_rfl hsum (add_nonneg hv hv')
        (add_nonneg hc hc') hk hlarge
      rwa [add_zero] at h
    | infinite hy =>
      match x with
      | .finite _ _ => exact .infinite (by linarith)
      | .nan => cases hx
      | .infinite _ => cases hx
  | infinite hx =>
    cases hy with
    | finite hy hy0 hyerror =>
      match y with
      | .finite _ _ => exact .infinite (by linarith)
      | .nan => cases hy
      | .infinite _ => cases hy
    | infinite hy => exact .infinite (by linarith)

/-- **A multiple** is near to the multiple of the value. -/
theorem Near.mul (hx : Near k c large v x) {n : ℕ} (hn0 : 0 < n) (hn : n < 2 ^ precision) (hv : 0 ≤ v)
    (hc : 0 ≤ c) (hk : k ≤ 2 ^ 52) (hlarge : large + n * c ≤ immense / 2) :
    Near (k + 1) (n * c) large (n * v) (mul (ofNat n) x) := by
  have hcount : (1 : ℚ) ≤ n := by exact_mod_cast hn0
  cases hx with
  | finite hx hx0 hxerror =>
    have hproduct : |n * x.toRat - n * v| ≤ hair k (n * c) (n * v) := by
      rw [← mul_sub, abs_mul, Nat.abs_cast, ← hair_mul]
      exact mul_le_mul_of_nonneg_left hxerror (Nat.cast_nonneg n)
    have h := Near.of_rounds (rounds_mul hx hx0 hn) le_rfl hproduct (by positivity) (by positivity) hk hlarge
    rwa [add_zero] at h
  | infinite hlargev =>
    have hinfinite : Binary64.mul (ofNat n) (.infinite false) = .infinite false := by
      rw [ofNat_eq hn]
      simp only [Binary64.mul, if_neg (Nat.mul_pos hn0 unitsPerOne_pos).ne', Bool.xor_self]
    rw [hinfinite]
    exact .infinite (by nlinarith)

/-- **A quotient** is near to the quotient of the value. -/
theorem Near.div {n : ℕ} (hx : Near k c (n * large) v x) (hn0 : 0 < n) (hn : n < 2 ^ precision) (hv : 0 ≤ v)
    (hc : 0 ≤ c) (hk : k ≤ 2 ^ 52) (hlarge : large + c / n ≤ immense / 2) :
    Near (k + 1) (c / n + unit / 2) large (v / n) (div x (ofNat n)) := by
  have hcount : (0 : ℚ) < n := by exact_mod_cast hn0
  cases hx with
  | finite hx hx0 hxerror =>
    have hquotient : |x.toRat / n - v / n| ≤ hair k (c / n) (v / n) := by
      rw [div_eq_inv_mul, div_eq_inv_mul, div_eq_inv_mul, ← mul_sub, abs_mul, ← hair_mul,
        abs_of_pos (inv_pos.2 hcount)]
      exact mul_le_mul_of_nonneg_left hxerror (inv_pos.2 hcount).le
    exact Near.of_rounds (rounds_div hx hx0 hn0 hn) (half_pos unit_pos).le hquotient (by positivity)
      (by positivity) hk hlarge
  | infinite hlargev =>
    have hinfinite : Binary64.div (.infinite false) (ofNat n) = .infinite false := by
      rw [ofNat_eq hn]
      simp only [Binary64.div, Bool.xor_self]
    rw [hinfinite]
    exact .infinite ((le_div_iff₀' hcount).2 hlargev)

/-- **A sum** of numbers that are not negative, in whatever order, is near to their exact sum. -/
theorem near_foldl_add {ds : List Binary64} (hds : ∀ d ∈ ds, d.isFinite = true ∧ 0 ≤ d.toRat)
    (hx : Near k 0 large v x) (hv : 0 ≤ v) (hk : k + ds.length ≤ 2 ^ 52) (hlarge : large ≤ immense / 2) :
    Near (k + ds.length) 0 large (v + (ds.map toRat).sum) (ds.foldl Binary64.add x) := by
  induction ds generalizing k v x with
  | nil => simpa using hx
  | cons d ds ih =>
    obtain ⟨hd, hd0⟩ := hds d List.mem_cons_self
    rw [List.length_cons] at hk
    have hself : Near 0 0 large d.toRat d := near_self hd hd0
    have hstep := hx.add (hself.mono (Nat.zero_le k) le_rfl (by simpa using hd0)) hv hd0 le_rfl le_rfl
      (by omega) (by simpa using hlarge)
    rw [add_zero] at hstep
    have hrest := ih (fun e he => hds e (List.mem_cons_of_mem d he)) hstep (add_nonneg hv hd0) (by omega)
    rw [List.map_cons, List.sum_cons, ← add_assoc, List.length_cons, Nat.add_comm ds.length, ← Nat.add_assoc]
    exact hrest

end FlowRuns.Binary64
