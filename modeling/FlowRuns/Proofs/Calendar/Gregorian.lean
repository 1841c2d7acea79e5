import Mathlib.Data.Int.Init
import Mathlib.Logic.Function.Iterate
import Mathlib.Tactic.IntervalCases
import FlowRuns.Calendar.Date

/-!
# The calendar, day by day

After each day comes a next one: the next of its month, the first of the next month, or the first of the next
year. Counting this way from 1970-01-01 gives every day its number, and the number its day; the two formulas
for that agree with the counting, for all years.

* `Civil.next`, `Civil.IsDay` — counting day by day.
* `Civil.next_spec` — the day after an existing one exists, and its number is one more.
* `Civil.civil_date` — a day is found again from its number.
* `Date.civil_eq_iff` — **year, month and day** of a date.
* `Civil.isDay_iff` — **counting** comes to the day of a number.
-/

namespace FlowRuns

namespace Civil

/-! ## Counting -/

/-- The day after. -/
def next (c : Civil) : Civil :=
  if c.day < daysInMonth c.year c.month then ⟨c.year, c.month, c.day + 1⟩
  else if c.month < 12 then ⟨c.year, c.month + 1, 1⟩
  else ⟨c.year + 1, 1, 1⟩

/-- The day that is a number of days after 1970-01-01, counted day by day, forwards or backwards. -/
inductive IsDay : Int → Civil → Prop where
  /-- the day from which one counts -/
  | epoch : IsDay 0 ⟨1970, 1, 1⟩
  /-- one more -/
  | next {n : Int} {c : Civil} (h : IsDay n c) : IsDay (n + 1) c.next
  /-- one less -/
  | previous {n : Int} {c : Civil} (hvalid : c.isValid = true) (h : IsDay (n + 1) c.next) : IsDay n c

theorem isValid_iff {c : Civil} : c.isValid = true ↔
    (1 ≤ c.month ∧ c.month ≤ 12) ∧ 1 ≤ c.day ∧ c.day ≤ daysInMonth c.year c.month := by
  simp [isValid, and_assoc]

theorem isLeapYear_iff {y : Int} : isLeapYear y = true ↔ y % 4 = 0 ∧ (y % 100 = 0 → y % 400 = 0) := by
  simp only [isLeapYear, Bool.and_eq_true, beq_iff_eq, Bool.or_eq_true, bne_iff_ne]
  exact and_congr_right' or_iff_not_imp_left |>.trans (by rw [Decidable.not_not])

theorem daysInMonth_pos (year : Int) (month : Nat) : 0 < daysInMonth year month := by
  unfold daysInMonth
  split
  · split <;> decide
  all_goals decide

/-- A month begins when the one before is over. -/
theorem daysBeforeMonth_succ (year : Int) {month : Nat} (h : 1 ≤ month) :
    daysBeforeMonth year (month + 1) = daysBeforeMonth year month + daysInMonth year month := by
  obtain ⟨m, rfl⟩ := Nat.exists_eq_add_of_le' h
  simp [daysBeforeMonth, List.range_succ]

/-- The days before a month. From March on they are the leap day, and months of 31 and 30 days in turn. -/
theorem daysBeforeMonth_eq (year : Int) {month : Nat} (h : 1 ≤ month ∧ month ≤ 12) :
    daysBeforeMonth year month = if month ≤ 2 then 31 * (month - 1)
      else 59 + (if isLeapYear year then 1 else 0) + (153 * (month - 3) + 2) / 5 := by
  obtain ⟨hfirst, hlast⟩ := h
  unfold daysBeforeMonth
  interval_cases month <;> simp [List.range_succ, daysInMonth] <;> split <;> omega

/-- A year begins when the one before is over. -/
theorem daysBeforeYear_succ (year : Int) :
    daysBeforeYear (year + 1) = daysBeforeYear year + 365 + if isLeapYear year then 1 else 0 := by
  unfold daysBeforeYear
  dsimp only
  split
  next hleap =>
    have hrule := isLeapYear_iff.1 hleap
    omega
  next hcommon =>
    have hrule := mt isLeapYear_iff.2 hcommon
    omega

/-- **The day after** an existing one exists, and its number is one more. -/
theorem next_spec {c : Civil} (h : c.isValid = true) :
    c.next.isValid = true ∧ c.next.date.day = c.date.day + 1 := by
  obtain ⟨hmonth, hday, hlast⟩ := isValid_iff.1 h
  unfold next
  split
  next hless =>
    refine ⟨isValid_iff.2 ⟨hmonth, Nat.le_add_left 1 _, hless⟩, ?_⟩
    simp only [date]
    omega
  next hend =>
    have hover : c.day = daysInMonth c.year c.month := by omega
    split
    next hless =>
      refine ⟨isValid_iff.2 ⟨⟨Nat.le_add_left 1 _, hless⟩, Nat.le_refl 1, daysInMonth_pos _ _⟩, ?_⟩
      simp only [date, daysBeforeMonth_succ c.year hmonth.1, hover]
      have hpos := daysInMonth_pos c.year c.month
      omega
    next hyear =>
      refine ⟨isValid_iff.2 ⟨⟨Nat.le_refl 1, Nat.le_add_left 1 11⟩, Nat.le_refl 1, daysInMonth_pos _ _⟩, ?_⟩
      have hdecember : c.month = 12 := by omega
      have hbefore : daysBeforeMonth c.year 12 = 334 + if isLeapYear c.year then 1 else 0 := by
        rw [daysBeforeMonth_eq c.year (by decide), if_neg (by decide)]
        omega
      have hthirtyFirst : c.day = 31 := by
        rw [hover, hdecember]
        rfl
      have hjanuary : daysBeforeMonth (c.year + 1) 1 = 0 := rfl
      simp only [date, daysBeforeYear_succ, hjanuary, hthirtyFirst, hdecember, hbefore]
      split <;> omega

/-! ## Years from March -/

/-- The year, if years begin with March. -/
def marchYear (c : Civil) : Int := if c.month ≤ 2 then c.year - 1 else c.year

/-- The months before, from March on. -/
def marchMonth (c : Civil) : Nat := if c.month ≤ 2 then c.month + 9 else c.month - 3

/-- The days before, from 1 March on. -/
def marchDay (c : Civil) : Nat := (153 * c.marchMonth + 2) / 5 + (c.day - 1)

/-- The number of a day, by whole years from March and the days in the last. -/
theorem day_eq {c : Civil} (hmonth : 1 ≤ c.month ∧ c.month ≤ 12) (hday : 1 ≤ c.day) :
    c.date.day + 719468 = 365 * c.marchYear + c.marchYear / 4 - c.marchYear / 100 + c.marchYear / 400 +
      c.marchDay := by
  simp only [date, daysBeforeMonth_eq c.year hmonth, marchDay, marchYear, marchMonth, daysBeforeYear,
    firstDay]
  split
  · omega
  · split
    next hleap =>
      have hrule := isLeapYear_iff.1 hleap
      omega
    next hcommon =>
      have hrule := mt isLeapYear_iff.2 hcommon
      omega

/-- From March on, a month is over when the next begins; only February may be shorter. -/
theorem daysInMonth_le {c : Civil} (hmonth : 1 ≤ c.month ∧ c.month ≤ 12) :
    daysInMonth c.year c.month ≤ (153 * (c.marchMonth + 1) + 2) / 5 - (153 * c.marchMonth + 2) / 5 := by
  obtain ⟨year, month, day⟩ := c
  obtain ⟨hfirst, hlast⟩ : 1 ≤ month ∧ month ≤ 12 := hmonth
  simp only [marchMonth]
  interval_cases month <;> simp only [daysInMonth]
  all_goals first | decide | (split <;> decide)

/-- The leap day is the last of its year. -/
theorem marchDay_spec {c : Civil} (h : c.isValid = true) :
    c.marchDay ≤ 365 ∧ (c.marchDay = 365 → isLeapYear (c.marchYear + 1) = true) := by
  obtain ⟨hmonth, hday, hlast⟩ := isValid_iff.1 h
  have hlength := daysInMonth_le hmonth
  by_cases hfebruary : c.month = 2
  · rw [hfebruary] at hlast
    have hyear : c.marchYear + 1 = c.year := by
      rw [marchYear, if_pos (by omega)]
      omega
    rw [marchDay, marchMonth, if_pos (by omega), hfebruary, hyear]
    simp only [daysInMonth] at hlast
    split at hlast
    next hleap => exact ⟨by omega, fun _ => hleap⟩
    next => exact ⟨by omega, by omega⟩
  · have hmarch : c.marchMonth ≤ 10 := by
      unfold marchMonth
      split <;> omega
    unfold marchDay
    exact ⟨by omega, by omega⟩

/-- Month and year, from those that begin with March. -/
theorem of_march {c : Civil} (hmonth : 1 ≤ c.month ∧ c.month ≤ 12) :
    (if c.marchMonth < 10 then c.marchMonth + 3 else c.marchMonth - 9) = c.month ∧
      (c.marchYear + if c.month ≤ 2 then 1 else 0) = c.year := by
  unfold marchMonth marchYear
  by_cases hbefore : c.month ≤ 2
  · rw [if_pos hbefore, if_pos hbefore, if_pos hbefore, if_neg (by omega)]
    omega
  · rw [if_neg hbefore, if_neg hbefore, if_neg hbefore, if_pos (by omega)]
    omega

/-- The year within a block of 400, of which the leap years are known. -/
theorem year_of_block {a b r days inBlock : Nat} (ha : a ≤ 3) (hb : b ≤ 24) (hr : r ≤ 3) (hdays : days ≤ 365)
    (hleap : days = 365 → r = 3 ∧ (b = 24 → a = 3))
    (hblock : inBlock = 36524 * a + 1461 * b + 365 * r + days) :
    (inBlock - inBlock / 1460 + inBlock / 36524 - inBlock / 146096) / 365 = 100 * a + 4 * b + r := by
  by_cases hlast : inBlock = 146096
  · subst hlast
    obtain ⟨rfl, rfl, rfl⟩ : a = 3 ∧ b = 24 ∧ r = 3 := by omega
    rfl
  · have hcentury : inBlock / 36524 = a := by omega
    have hbefore : inBlock / 146096 = 0 := by omega
    have hfour : inBlock / 1460 = 25 * a + b + if 1460 ≤ 24 * a + b + 365 * r + days then 1 else 0 := by
      split <;> omega
    rw [hcentury, hbefore, hfour]
    split <;> omega

/-- **A day is found again** from its number. -/
theorem civil_date {c : Civil} (h : c.isValid = true) : c.date.civil = c := by
  obtain ⟨hmonth, hday, hlast⟩ := isValid_iff.1 h
  obtain ⟨hdays, hleap⟩ := marchDay_spec h
  have hnumber := day_eq hmonth hday
  -- the year is in a block of 400, a century of that, four years of that
  obtain ⟨k, a, b, r, hyear, ha, hb, hr⟩ : ∃ (k : Int) (a b r : Nat),
      c.marchYear = 400 * k + (100 * a + 4 * b + r : Nat) ∧ a ≤ 3 ∧ b ≤ 24 ∧ r ≤ 3 :=
    ⟨c.marchYear / 400, (c.marchYear % 400 / 100).toNat, (c.marchYear % 100 / 4).toNat,
      (c.marchYear % 4).toNat, by omega, by omega, by omega, by omega⟩
  have hrule : c.marchDay = 365 → r = 3 ∧ (b = 24 → a = 3) := fun hend => by
    have hyears := isLeapYear_iff.1 (hleap hend)
    omega
  have htotal : c.date.day + 719468 =
      146097 * k + (36524 * a + 1461 * b + 365 * r + c.marchDay : Nat) := by omega
  have hblock : (c.date.day + 719468) / 146097 = k := by omega
  have hinBlock : ((c.date.day + 719468) % 146097).toNat =
      36524 * a + 1461 * b + 365 * r + c.marchDay := by omega
  have hinYear : 36524 * a + 1461 * b + 365 * r + c.marchDay - (365 * (100 * a + 4 * b + r) +
      (100 * a + 4 * b + r) / 4 - (100 * a + 4 * b + r) / 100) = c.marchDay := by
    have hfour : (100 * a + 4 * b + r) / 4 = 25 * a + b := by omega
    have hcentury : (100 * a + 4 * b + r) / 100 = a := by omega
    omega
  have hinMarch : (5 * c.marchDay + 2) / 153 = c.marchMonth := by
    have hlength := daysInMonth_le hmonth
    unfold marchDay
    omega
  have hyears : ((100 * a + 4 * b + r : Nat) + 400 * k : Int) = c.marchYear := by omega
  have hdayAgain : c.marchDay - (153 * c.marchMonth + 2) / 5 + 1 = c.day := by
    unfold marchDay
    omega
  unfold Date.civil
  simp only [hblock, hinBlock, year_of_block ha hb hr hdays hrule rfl, hinYear, hinMarch, hyears, hdayAgain,
    of_march hmonth]

/-! ## Every day -/

/-- Every number is that of a day: count on from a day in a year that is early enough. -/
theorem exists_valid (d : Date) : ∃ c : Civil, c.isValid = true ∧ c.date = d := by
  have hcount (start : Civil) (hstart : start.isValid = true) (k : Nat) :
      (next^[k] start).isValid = true ∧ (next^[k] start).date.day = start.date.day + k := by
    induction k with
    | zero => exact ⟨hstart, (Int.add_zero _).symm⟩
    | succ k ih =>
      rw [Function.iterate_succ_apply']
      obtain ⟨hvalid, hday⟩ := next_spec ih.1
      exact ⟨hvalid, by omega⟩
  have hearly : (⟨-d.day.natAbs, 1, 1⟩ : Civil).date.day ≤ d.day := by
    have hjanuary : daysBeforeMonth (-d.day.natAbs) 1 = 0 := rfl
    simp only [date, hjanuary, daysBeforeYear, firstDay]
    omega
  obtain ⟨hvalid, hday⟩ := hcount ⟨-d.day.natAbs, 1, 1⟩
    (isValid_iff.2 ⟨⟨Nat.le_refl 1, Nat.le_add_left 1 11⟩, Nat.le_refl 1, daysInMonth_pos _ _⟩)
    (d.day - (⟨-d.day.natAbs, 1, 1⟩ : Civil).date.day).toNat
  exact ⟨_, hvalid, Date.ext (by omega)⟩

end Civil

/-- **Year, month and day of a date** are those of the existing day with its number. -/
theorem Date.civil_eq_iff {d : Date} {c : Civil} : d.civil = c ↔ c.isValid = true ∧ c.date = d := by
  constructor
  · rintro rfl
    obtain ⟨c, hvalid, rfl⟩ := Civil.exists_valid d
    rw [Civil.civil_date hvalid]
    exact ⟨hvalid, rfl⟩
  · rintro ⟨hvalid, rfl⟩
    exact Civil.civil_date hvalid

namespace Civil

/-- The day after the one with a number has the next number. -/
theorem next_civil (n : Int) : (Date.civil ⟨n⟩).next = Date.civil ⟨n + 1⟩ := by
  obtain ⟨hvalid, hdate⟩ := Date.civil_eq_iff.1 (rfl : Date.civil ⟨n⟩ = _)
  obtain ⟨hnext, hday⟩ := next_spec hvalid
  refine (Date.civil_eq_iff.2 ⟨hnext, Date.ext ?_⟩).symm
  rw [hday, hdate]

/-- **Counting** comes to the day that has the number, and to no other. -/
theorem isDay_iff {n : Int} {c : Civil} : IsDay n c ↔ Date.civil ⟨n⟩ = c := by
  constructor
  · intro h
    induction h with
    | epoch => decide
    | next h ih => rw [← next_civil, ih]
    | @previous n c hvalid h ih =>
      obtain ⟨-, hnext⟩ := Date.civil_eq_iff.1 ih
      have hday : c.date.day + 1 = n + 1 := by rw [← (next_spec hvalid).2, hnext]
      exact Date.civil_eq_iff.2 ⟨hvalid, Date.ext (add_right_cancel hday)⟩
  · rintro rfl
    induction n using Int.induction_on with
    | zero => exact .epoch
    | succ n ih => exact next_civil n ▸ ih.next
    | pred n ih =>
      have hvalid := (Date.civil_eq_iff.1 (rfl : Date.civil ⟨-n - 1⟩ = _)).1
      refine .previous hvalid ?_
      rw [next_civil, Int.sub_add_cancel]
      exact ih

end Civil

end FlowRuns
