import FlowRuns.Proofs.Binary64.Rounding

/-!
# The place of a number on the line

Numbers are compared, and rounded up, by where they stand on one line of integers: a finite number
at its signed number of units, an infinity beyond all of them. What is no number is put at zero,
where rounding up and casting puts it too.

* `Binary64.position` — the place.
* `Binary64.le_iff`, `Binary64.lt_iff` — comparing is comparing places.
* `Binary64.ceilInt64_mono` — rounding up to 64 bits goes by the place alone, and keeps the order.
* `Binary64.foldl_maxNum_spec`, `Binary64.foldl_minNum_spec` — a search for an extreme finds a bound.
-/

namespace FlowRuns.Binary64

/-- Where a number stands on the line of units; what is no number stands at zero. -/
def position : Binary64 → Int
  | nan => 0
  | infinite negative => if negative then -(limit : Int) else limit
  | finite negative m => signedUnits negative m

@[simp] theorem position_nan : position nan = 0 := rfl

theorem position_infinite (negative : Bool) :
    position (infinite negative) = if negative then -(limit : Int) else limit := rfl

@[simp] theorem position_finite (negative : Bool) (m : Magnitude) :
    position (finite negative m) = signedUnits negative m := rfl

@[simp] theorem signedUnits_zero (negative : Bool) : signedUnits negative .zero = 0 := by
  cases negative <;> rfl

/-- The sign of an infinity tells on which side of zero it stands. -/
theorem position_infinite_iff (negative : Bool) :
    (0 < (infinite negative).position ↔ negative = false) ∧
      ((infinite negative).position < 0 ↔ negative = true) := by
  have hpos : 0 < (limit : Int) := Int.natCast_pos.2 limit_pos
  rw [position_infinite]
  generalize (limit : Int) = top at hpos ⊢
  cases negative <;> simp <;> omega

/-- Every finite number stands strictly between the infinities. -/
theorem signedUnits_bounds (negative : Bool) (m : Magnitude) :
    -(limit : Int) < signedUnits negative m ∧ signedUnits negative m < limit := by
  have h := m.representable.1
  unfold signedUnits
  split <;> omega

/-! ## Order -/

/-- Of two numbers, the lesser is the one that stands before the other. -/
theorem lt_iff {x y : Binary64} (hx : x.isNaN = false) (hy : y.isNaN = false) :
    lt x y = true ↔ x.position < y.position := by
  have hpos : 0 < (limit : Int) := Int.natCast_pos.2 limit_pos
  cases x with
  | nan => cases hx
  | infinite s =>
    rw [position_infinite]
    cases y with
    | nan => cases hy
    | infinite t =>
      rw [position_infinite]
      generalize (limit : Int) = top at hpos ⊢
      cases s <;> cases t <;> simp [lt] <;> omega
    | finite t b =>
      have hb := signedUnits_bounds t b
      generalize (limit : Int) = top at hb ⊢
      cases s <;> simp [lt] <;> omega
  | finite s a =>
    have ha := signedUnits_bounds s a
    cases y with
    | nan => cases hy
    | infinite t =>
      rw [position_infinite]
      generalize (limit : Int) = top at ha ⊢
      cases t <;> simp [lt] <;> omega
    | finite t b => simp [lt]

theorem le_iff {x y : Binary64} (hx : x.isNaN = false) (hy : y.isNaN = false) :
    le x y = true ↔ x.position ≤ y.position := by
  have h := lt_iff hy hx
  unfold le
  rw [hx, hy]
  by_cases hlt : lt y x = true
  · have := h.1 hlt
    simp [hlt]
    omega
  · have : ¬ y.position < x.position := fun hc => hlt (h.2 hc)
    simp [hlt]
    omega

/-! ## Rounding up -/

/-- The least whole number of seconds at or after a place. -/
def ceilOf (p : Int) : Int := -((-p) / (unitsPerOne : Int))

theorem ceilOf_mono {p q : Int} (h : p ≤ q) : ceilOf p ≤ ceilOf q := by
  have := Int.ediv_le_ediv (c := unitsPerOne) (by decide +kernel) (Int.neg_le_neg h)
  unfold ceilOf
  omega

theorem saturate_mono {low high i j : Int} (hb : low ≤ high) (h : i ≤ j) :
    saturate low high i ≤ saturate low high j := by
  unfold saturate
  repeat' split
  all_goals omega

theorem saturate_bounds {low high : Int} (hb : low ≤ high) (i : Int) :
    low ≤ saturate low high i ∧ saturate low high i ≤ high := by
  unfold saturate
  repeat' split
  all_goals omega

/-- Rounding up to 64 bits goes by the place alone. -/
theorem toInt_ceilInt64 (x : Binary64) :
    x.ceilInt64.toInt =
      saturate Int64.minValue.toInt Int64.maxValue.toInt (ceilOf x.position) := by
  cases x with
  | nan => decide +kernel
  | infinite s => cases s <;> decide +kernel
  | finite s m =>
    have hends : Int64.minValue.toInt ≤ Int64.maxValue.toInt := by decide
    obtain ⟨hlow, hhigh⟩ := saturate_bounds hends (ceilUnits s m)
    exact Int64.toInt_ofInt_of_le hlow (by simpa [Int64.maxValue] using Int.lt_add_one_of_le hhigh)

/-- **Rounding up keeps the order** of places. -/
theorem ceilInt64_mono {x y : Binary64} (h : x.position ≤ y.position) :
    x.ceilInt64 ≤ y.ceilInt64 := by
  rw [Int64.le_iff_toInt_le, toInt_ceilInt64, toInt_ceilInt64]
  exact saturate_mono (by decide) (ceilOf_mono h)

/-! ## Extremes -/

/-- The greater of a number and something else is a number, and stands at or after both; what is no
number does not count. -/
theorem maxNum_spec {x : Binary64} (hx : x.isNaN = false) (y : Binary64) :
    (maxNum x y).isNaN = false ∧ x.position ≤ (maxNum x y).position ∧
      (y.isNaN = false → y.position ≤ (maxNum x y).position) ∧
      (y.isNaN = true → maxNum x y = x) := by
  unfold maxNum
  cases hy : y.isNaN with
  | true => simp [hx]
  | false =>
    have hlt := lt_iff hx hy
    by_cases h : lt x y = true
    · have := hlt.1 h
      simp [hx, hy, h]
      omega
    · have : ¬ x.position < y.position := fun hc => h (hlt.2 hc)
      simp [hx, h]
      omega

/-- The lesser of a number and something else is a number, and stands at or before both. -/
theorem minNum_spec {x : Binary64} (hx : x.isNaN = false) (y : Binary64) :
    (minNum x y).isNaN = false ∧ (minNum x y).position ≤ x.position ∧
      (y.isNaN = false → (minNum x y).position ≤ y.position) ∧
      (y.isNaN = true → minNum x y = x) := by
  unfold minNum
  cases hy : y.isNaN with
  | true => simp [hx]
  | false =>
    have hlt := lt_iff hy hx
    by_cases h : lt y x = true
    · have := hlt.1 h
      simp [hx, hy, h]
      omega
    · have : ¬ y.position < x.position := fun hc => h (hlt.2 hc)
      simp [hx, h]
      omega

/-- **A search for the greatest number** finds a number at or after every one that was searched, and
stays where it began among things that are no numbers. -/
theorem foldl_maxNum_spec (ds : List Binary64) {x : Binary64} (hx : x.isNaN = false) :
    (ds.foldl maxNum x).isNaN = false ∧ x.position ≤ (ds.foldl maxNum x).position ∧
      (∀ d ∈ ds, d.isNaN = false → d.position ≤ (ds.foldl maxNum x).position) ∧
      ((∀ d ∈ ds, d.isNaN = true) → ds.foldl maxNum x = x) := by
  induction ds generalizing x with
  | nil => simp [hx]
  | cons d rest ih =>
    obtain ⟨hnum, hle, hd, hskip⟩ := maxNum_spec hx d
    obtain ⟨hnum', hle', hall, hstay⟩ := ih hnum
    refine ⟨hnum', Int.le_trans hle hle', ?_, ?_⟩
    · intro e he hen
      rcases List.mem_cons.mp he with rfl | he
      · exact Int.le_trans (hd hen) hle'
      · exact hall e he hen
    · intro hnan
      rw [List.foldl_cons, hstay fun e he => hnan e (List.mem_cons_of_mem _ he)]
      exact hskip (hnan d List.mem_cons_self)

/-- **A search for the least number** finds a number at or before every one that was searched, and
stays where it began among things that are no numbers. -/
theorem foldl_minNum_spec (ds : List Binary64) {x : Binary64} (hx : x.isNaN = false) :
    (ds.foldl minNum x).isNaN = false ∧ (ds.foldl minNum x).position ≤ x.position ∧
      (∀ d ∈ ds, d.isNaN = false → (ds.foldl minNum x).position ≤ d.position) ∧
      ((∀ d ∈ ds, d.isNaN = true) → ds.foldl minNum x = x) := by
  induction ds generalizing x with
  | nil => simp [hx]
  | cons d rest ih =>
    obtain ⟨hnum, hle, hd, hskip⟩ := minNum_spec hx d
    obtain ⟨hnum', hle', hall, hstay⟩ := ih hnum
    refine ⟨hnum', Int.le_trans hle' hle, ?_, ?_⟩
    · intro e he hen
      rcases List.mem_cons.mp he with rfl | he
      · exact Int.le_trans hle' (hd hen)
      · exact hall e he hen
    · intro hnan
      rw [List.foldl_cons, hstay fun e he => hnan e (List.mem_cons_of_mem _ he)]
      exact hskip (hnan d List.mem_cons_self)

end FlowRuns.Binary64
