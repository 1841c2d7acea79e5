import Mathlib.Data.List.Perm.Subperm
import Mathlib.Data.List.Induction
import Mathlib.Algebra.BigOperators.Group.List.Basic
import Mathlib.Algebra.Order.BigOperators.Group.List
import FlowRuns.Proofs.Binary64.Error

/-!
# Sums of which only the last is rounded

If the exact sum of some but not all of the numbers always has a place in the format, whichever are taken, then
a sum is rounded once, when the last number is added, and comes out the same in whatever order. So it is with
numbers that are multiples of one power of two and add up to no more than 53 digits of it.

* `Binary64.HasPlace`, `Binary64.PartsExact` — exact sums with a place in the format.
* `Binary64.foldl_add_eq_nearest` — such a sum is one rounding of the exact one.
* `Binary64.foldl_add_perm` — **the order of the numbers does not matter.**
* `Binary64.partsExact_of_multiples` — multiples of a power of two.
-/

namespace FlowRuns.Binary64

/-- A value that some finite number has. -/
def HasPlace (q : ℚ) : Prop := ∃ x : Binary64, x.isFinite = true ∧ x.toRat = q

/-- The exact sum of some but not all of these numbers, whichever they are, has a place in the format. -/
def PartsExact (ds : List Binary64) : Prop :=
  ∀ part : List Binary64, part.Subperm ds → part.length < ds.length → HasPlace (part.map toRat).sum

/-- Fewer numbers, in whatever order. -/
theorem PartsExact.subperm {ds ds' : List Binary64} (h : PartsExact ds) (hsub : ds'.Subperm ds) :
    PartsExact ds' :=
  fun part hpart hlen => h part (hpart.trans hsub) (hlen.trans_le hsub.length_le)

/-! ## Units -/

/-- A value is one number of units at most. -/
theorem units_unique {m n : ℕ} (h : m * unit = n * unit) : m = n :=
  Nat.cast_injective (mul_right_cancel₀ unit_pos.ne' h)

/-- Units that have a place are not rounded. -/
theorem nearest_of_hasPlace {n : ℕ} (h : HasPlace (n * unit)) :
    ∃ m : Magnitude, nearest false n 1 = finite false m ∧ m.units = n := by
  obtain ⟨x, hx, hvalue⟩ := h
  obtain ⟨k, hk, hxk⟩ := exists_units hx (hvalue ▸ mul_nonneg (Nat.cast_nonneg n) unit_pos.le)
  obtain rfl : k = n := units_unique (hxk.symm.trans hvalue)
  match x with
  | finite s m =>
    have hunits : m.units = k := by
      rw [position_finite, signedUnits] at hk
      split at hk <;> omega
    refine ⟨m, ?_, hunits⟩
    have hexact := nearest_mul false m Nat.one_pos
    rwa [Nat.mul_one, hunits] at hexact
  | nan => cases hx
  | infinite _ => cases hx

/-- **One more number** is added by its units. -/
theorem add_eq_nearest (m : Magnitude) {d : Binary64} (hd : d.isFinite = true) (hd0 : 0 ≤ d.toRat) :
    ∃ n : ℕ, add (finite false m) d = nearest false n 1 ∧ m.units * unit + d.toRat = n * unit := by
  obtain ⟨k, hk, hdk⟩ := exists_units hd hd0
  refine ⟨m.units + k, ?_, by rw [hdk, Nat.cast_add, add_mul]⟩
  match d with
  | finite t b =>
    rw [position_finite] at hk
    have hunits : signedUnits false m + signedUnits t b = ((m.units + k : ℕ) : ℤ) := by
      rw [hk, Nat.cast_add]
      rfl
    simp only [add, hunits]
    split
    next hzero =>
      rw [Nat.cast_eq_zero.1 hzero, nearest_zero false Nat.one_pos, Bool.false_and]
    next =>
      rw [decide_eq_false (Int.not_lt.2 (Int.natCast_nonneg _)), Int.natAbs_natCast]
  | nan => cases hd
  | infinite _ => cases hd

/-! ## Sums -/

variable {ds ds' : List Binary64}

theorem sum_concat (ds : List Binary64) (d : Binary64) :
    ((ds ++ [d]).map toRat).sum = (ds.map toRat).sum + d.toRat := by
  rw [List.map_append, List.sum_append, List.map_singleton, List.sum_singleton]

/-- If all sums on the way have a place, nothing is rounded. -/
theorem foldl_add_exact (hds : ∀ d ∈ ds, d.isFinite = true ∧ 0 ≤ d.toRat)
    (h : ∀ part, part <+: ds → HasPlace (part.map toRat).sum) :
    ∃ m : Magnitude, ds.foldl add zero = finite false m ∧ (ds.map toRat).sum = m.units * unit := by
  induction ds using List.reverseRecOn with
  | nil => exact ⟨.zero, rfl, by rw [List.map_nil, List.sum_nil, units_zero, Nat.cast_zero, zero_mul]⟩
  | append_singleton ds d ih =>
    obtain ⟨m, hm, hsum⟩ := ih (fun e he => hds e (List.mem_append_left _ he))
      fun part hpart => h part (hpart.trans (List.prefix_append ds [d]))
    obtain ⟨hd, hd0⟩ := hds d (by simp)
    obtain ⟨n, hn, hvalue⟩ := add_eq_nearest m hd hd0
    have htotal : ((ds ++ [d]).map toRat).sum = n * unit := by rw [sum_concat, hsum, hvalue]
    obtain ⟨m', hm', rfl⟩ := nearest_of_hasPlace (htotal ▸ h _ List.prefix_rfl)
    exact ⟨m', by rw [List.foldl_append, hm, List.foldl_cons, hn, hm', List.foldl_nil], htotal⟩

/-- **A sum of which only the last is rounded** is the exact sum, rounded once. -/
theorem foldl_add_eq_nearest (hds : ∀ d ∈ ds, d.isFinite = true ∧ 0 ≤ d.toRat) (hparts : PartsExact ds) :
    ∃ n : ℕ, ds.foldl add zero = nearest false n 1 ∧ (ds.map toRat).sum = n * unit := by
  obtain rfl | ⟨ds, d, rfl⟩ := List.eq_nil_or_concat' ds
  · exact ⟨0, (nearest_zero false Nat.one_pos).symm,
      by rw [List.map_nil, List.sum_nil, Nat.cast_zero, zero_mul]⟩
  · -- all sums but the last are those of a proper part
    obtain ⟨m, hm, hsum⟩ := foldl_add_exact (fun e he => hds e (List.mem_append_left _ he)) fun part hpart =>
      hparts part (hpart.trans (List.prefix_append ds [d])).sublist.subperm (by
        rw [List.length_append]
        exact Nat.lt_succ_of_le hpart.length_le)
    obtain ⟨hd, hd0⟩ := hds d (by simp)
    obtain ⟨n, hn, hvalue⟩ := add_eq_nearest m hd hd0
    exact ⟨n, by rw [List.foldl_append, hm, List.foldl_cons, hn, List.foldl_nil],
      by rw [sum_concat, hsum, hvalue]⟩

/-- **The order of the numbers does not matter** where only the last sum is rounded. -/
theorem foldl_add_perm (hds : ∀ d ∈ ds, d.isFinite = true ∧ 0 ≤ d.toRat) (hparts : PartsExact ds)
    (hperm : ds.Perm ds') : ds.foldl add zero = ds'.foldl add zero := by
  obtain ⟨n, hn, hsum⟩ := foldl_add_eq_nearest hds hparts
  obtain ⟨n', hn', hsum'⟩ := foldl_add_eq_nearest (fun d hd => hds d (hperm.mem_iff.2 hd)) (hparts.subperm hperm.symm.subperm)
  have hsame : n * unit = n' * unit := by rw [← hsum, ← hsum', (hperm.map toRat).sum_eq]
  rw [hn, hn', units_unique hsame]

/-! ## Multiples of a power of two -/

/-- A whole number of no more than 53 digits, times a power of two of units, has a place. -/
theorem hasPlace_mul {n e : ℕ} (hn : n < 2 ^ precision) (he : e + precision ≤ endExponent) :
    HasPlace (n * (2 ^ e * unit)) := by
  have hvalue : (finite false ⟨n * 2 ^ e, representable_mul hn he⟩).toRat = n * (2 ^ e * unit) := by
    rw [toRat_finite, ← mul_assoc]
    push_cast [signedUnits]
    rfl
  exact ⟨_, rfl, hvalue⟩

/-- **Multiples of one power of two** that add up to no more than 53 digits of it are added exactly. -/
theorem partsExact_of_multiples {e : ℕ} (he : e + precision ≤ endExponent)
    (hds : ∀ d ∈ ds, ∃ n : ℕ, d.toRat = n * (2 ^ e * unit))
    (hsum : (ds.map toRat).sum < 2 ^ precision * (2 ^ e * unit)) : PartsExact ds := by
  have hstep : (0 : ℚ) < 2 ^ e * unit := mul_pos (by positivity) unit_pos
  have hmultiple : ∀ part : List Binary64, (∀ d ∈ part, d ∈ ds) →
      ∃ n : ℕ, (part.map toRat).sum = n * (2 ^ e * unit) := by
    intro part hpart
    induction part with
    | nil => exact ⟨0, by rw [List.map_nil, List.sum_nil, Nat.cast_zero, zero_mul]⟩
    | cons d part ih =>
      obtain ⟨n, hn⟩ := hds d (hpart d List.mem_cons_self)
      obtain ⟨m, hm⟩ := ih fun c hc => hpart c (List.mem_cons_of_mem d hc)
      exact ⟨n + m, by rw [List.map_cons, List.sum_cons, hn, hm, Nat.cast_add, add_mul]⟩
  intro part hpart _
  obtain ⟨n, hn⟩ := hmultiple part fun d hd => hpart.subset hd
  have hle : (part.map toRat).sum ≤ (ds.map toRat).sum := by
    obtain ⟨taken, hperm, hsub⟩ := hpart
    rw [← (hperm.map toRat).sum_eq]
    refine (hsub.map toRat).sum_le_sum fun q hq => ?_
    obtain ⟨d, hd, rfl⟩ := List.mem_map.1 hq
    obtain ⟨k, hk⟩ := hds d hd
    exact hk ▸ mul_nonneg (Nat.cast_nonneg k) hstep.le
  rw [hn] at hle ⊢
  have hfew : (n : ℚ) < 2 ^ precision := lt_of_mul_lt_mul_right (hle.trans_lt hsum) hstep.le
  exact hasPlace_mul (by exact_mod_cast hfew) he

end FlowRuns.Binary64
