import FlowRuns.Proofs.Calendar.Gregorian
import FlowRuns.Proofs.Calendar.Written

/-!
# Moments

The time that a time stamp means, counted in nanoseconds from the beginning of 1970 in universal time: days
are counted in the calendar, and the offset is taken away. Apart from leap seconds, which have no place in
this count, an instant is such a moment, instants are ordered as their moments are, and the date of an instant
is the day that its moment is in.

* `Timestamp.Exists`, `Timestamp.moment`, `Timestamp.Denotes` — the moment that a text denotes.
* `Instant.nanos`, `Instant.lt_iff_nanos_lt`, `Instant.nanos_mem_date` — the moments of instants.
* `Timestamp.instant?_eq_some_iff` — the instant of a time stamp.
* `Instant.ofStrict?_of_denotes`, `Instant.exists_ofStrict?_iff` — **the texts that give an instant**, and the
  moment that it is.
-/

namespace FlowRuns

/-! ## Moments of time stamps -/

namespace Timestamp

/-- There are such a day, such a time of day and such an offset. -/
structure Exists (t : Timestamp) : Prop where
  /-- the day -/
  date : t.date.isValid = true
  /-- the hour -/
  hour : t.hour ≤ 23
  /-- the minute -/
  minute : t.minute ≤ 59
  /-- the second, or a leap second -/
  second : t.second ≤ 60
  /-- less than a day -/
  offset : t.offset.natAbs < 86400

/-- The moment of a time stamp whose date has a number: the local time, without the offset. -/
def moment (t : Timestamp) (day : Int) : Int :=
  (day * 86400 + t.hour * 3600 + t.minute * 60 + t.second - t.offset) * 1000000000 + t.nano

/-- **A text denotes a moment.** -/
def Denotes (s : String) (x : Int) : Prop :=
  ∃ t day, Written s.toList t ∧ t.Exists ∧ t.second ≠ 60 ∧ t.date.IsDay day ∧ x = t.moment day

/-- A text denotes a leap second. -/
def DenotesLeap (s : String) : Prop := ∃ t, Written s.toList t ∧ t.Exists ∧ t.second = 60

end Timestamp

/-! ## Moments of instants -/

namespace Instant

variable {i j : Instant}

/-- The moment of an instant. -/
def nanos (i : Instant) : Int := i.second * 1000000000 + i.nano

/-- **Instants are ordered** as their moments are. -/
theorem lt_iff_nanos_lt (hi : i.nano < 1000000000) (hj : j.nano < 1000000000) :
    i < j ↔ i.nanos < j.nanos := by
  rw [lt_def, nanos, nanos]
  omega

/-- Instants are the same if their moments are. -/
theorem eq_of_nanos_eq (hi : i.nano < 1000000000) (hj : j.nano < 1000000000) (h : i.nanos = j.nanos) :
    i = j := by
  obtain ⟨second, nano⟩ := i
  obtain ⟨second', nano'⟩ := j
  simp only [nanos] at hi hj h
  obtain rfl : second = second' := by omega
  obtain rfl : nano = nano' := by omega
  rfl

/-- **The date of an instant** is the day that its moment is in. -/
theorem nanos_mem_date (hi : i.nano < 1000000000) :
    i.date.day * 86400000000000 ≤ i.nanos ∧ i.nanos < (i.date.day + 1) * 86400000000000 := by
  simp only [date, daySeconds, nanos]
  omega

end Instant

/-! ## The instant of a time stamp -/

namespace Timestamp

variable {s : List Char} {t : Timestamp} {i : Instant}

theorem Fraction.lt {digits : List Char} {nano : Nat} (h : Fraction digits nano) : nano < 1000000000 := by
  cases h with
  | none => decide
  | @digits width n digits h =>
    have hn : n < 10 ^ (width + 1) := h.value ▸ h.width ▸ ofDigitChars_lt h.digit
    exact Nat.div_lt_of_lt_mul (Nat.mul_lt_mul_of_pos_right hn (by decide))

/-- What the form of a time stamp says of its fraction and its year. -/
theorem Written.bounds (h : Written s t) :
    t.nano < 1000000000 ∧ 0 ≤ t.date.year ∧ t.date.year ≤ 9999 := by
  cases h with
  | @intro year _ _ _ _ _ _ _ y _ _ _ _ _ _ _ _ hyear _ _ _ _ _ _ hfraction _ =>
    have hy : y < 10 ^ 4 := hyear.value ▸ hyear.width ▸ ofDigitChars_lt hyear.digit
    have hlast : (y : Int) ≤ 9999 := by omega
    exact ⟨hfraction.lt, Int.natCast_nonneg y, hlast⟩

/-- Years of four digits are far from the ends of the range. -/
theorem inRange_of_near {c : Civil} (hvalid : c.isValid = true) (hyear : 0 ≤ c.year ∧ c.year ≤ 9999)
    {d : Date} (hnear : c.date.day - 1 ≤ d.day ∧ d.day ≤ c.date.day + 1) : d.inRange = true := by
  obtain ⟨hmonth, hday, -⟩ := Civil.isValid_iff.1 hvalid
  have hnumber := Civil.day_eq hmonth hday
  have hdays := (Civil.marchDay_spec hvalid).1
  have hmarch : -1 ≤ c.marchYear ∧ c.marchYear ≤ 9999 := by
    unfold Civil.marchYear
    split <;> omega
  have hends : Date.earliest.day = -96465292 ∧ Date.latest.day = 95026236 := by decide
  rw [Date.inRange, Bool.and_eq_true, decide_eq_true_eq, decide_eq_true_eq, Date.le_def, Date.le_def]
  omega

/-- The seconds of the instant, and its nanoseconds. -/
theorem plus_localReading (t : Timestamp) : t.localReading.plus (-t.offset) =
    ⟨t.date.date.day * 86400 +
        (t.hour * 3600 + t.minute * 60 + if t.second = 60 then 59 else t.second : Nat) - t.offset,
      t.nano + if t.second = 60 then 1000000000 else 0⟩ := by
  simp only [localReading, Instant.plus, Instant.daySeconds, Int.sub_eq_add_neg]

/-- **The instant of a time stamp**, if there is such a day, such a time of day and such an offset. -/
theorem instant?_eq_some_iff (h : Written s t) :
    t.instant? = some i ↔ t.Exists ∧ t.localReading.plus (-t.offset) = i := by
  obtain ⟨hnano, hyear⟩ := h.bounds
  have hvalid : t.isValid = true ↔ t.Exists := by
    simp only [isValid, Bool.and_eq_true, decide_eq_true_eq]
    constructor
    · rintro ⟨⟨⟨⟨⟨⟨hdate, hhour⟩, hminute⟩, hsecond⟩, -⟩, hoffset⟩, -⟩
      exact ⟨hdate, hhour, hminute, hsecond, hoffset⟩
    · intro hexists
      exact ⟨⟨⟨⟨⟨⟨hexists.date, hexists.hour⟩, hexists.minute⟩, hexists.second⟩, hnano⟩, hexists.offset⟩,
        inRange_of_near hexists.date hyear (by omega)⟩
  -- neither the time of day nor the offset leads further than to the next day
  have hnear (hexists : t.Exists) : (t.localReading.plus (-t.offset)).date.inRange = true := by
    refine inRange_of_near hexists.date hyear ?_
    obtain ⟨-, hhour, hminute, hsecond, hoffset⟩ := hexists
    simp only [plus_localReading, Instant.date, Instant.daySeconds]
    split <;> omega
  unfold instant?
  dsimp only
  constructor
  · intro hsome
    split at hsome
    next hboth =>
      exact ⟨hvalid.1 (Bool.and_eq_true_iff.1 hboth).1, Option.some.inj hsome⟩
    next => cases hsome
  · rintro ⟨hexists, rfl⟩
    rw [if_pos (Bool.and_eq_true_iff.2 ⟨hvalid.2 hexists, hnear hexists⟩)]

end Timestamp

namespace Instant

variable {s : String} {i : Instant} {x : Int}

/-- The instant of a text. -/
theorem ofStrict?_eq_some_iff : ofStrict? s = some i ↔
    ∃ t, Timestamp.Written s.toList t ∧ t.Exists ∧ t.localReading.plus (-t.offset) = i := by
  rw [ofStrict?, Option.bind_eq_bind, Option.bind_eq_some_iff]
  refine exists_congr fun t => ?_
  rw [Timestamp.ofStrict?_eq_some_iff]
  exact and_congr_right Timestamp.instant?_eq_some_iff

/-- **A text that denotes a moment** gives the instant that is this moment. -/
theorem ofStrict?_of_denotes (h : Timestamp.Denotes s x) :
    ∃ i, ofStrict? s = some i ∧ i.nanos = x ∧ i.nano < 1000000000 := by
  obtain ⟨t, day, hwritten, hexists, hleap, hday, rfl⟩ := h
  refine ⟨_, ofStrict?_eq_some_iff.2 ⟨t, hwritten, hexists, rfl⟩, ?_⟩
  obtain ⟨-, hdate⟩ := Date.civil_eq_iff.1 (Civil.isDay_iff.1 hday)
  have hnano := hwritten.bounds.1
  rw [Timestamp.plus_localReading, if_neg hleap, if_neg hleap, hdate]
  simp only [nanos, Timestamp.moment]
  omega

/-- A text denotes one moment. -/
theorem denotes_iff_eq (h : Timestamp.Denotes s x) {y : Int} : Timestamp.Denotes s y ↔ y = x := by
  constructor
  · intro h'
    obtain ⟨i, hi, hx, -⟩ := ofStrict?_of_denotes h
    obtain ⟨j, hj, hy, -⟩ := ofStrict?_of_denotes h'
    obtain rfl := Option.some.inj (hi.symm.trans hj)
    rw [← hx, ← hy]
  · rintro rfl
    exact h

/-- **The texts that give an instant** denote a moment or a leap second. -/
theorem exists_ofStrict?_iff : (∃ i, ofStrict? s = some i) ↔
    (∃ x, Timestamp.Denotes s x) ∨ Timestamp.DenotesLeap s := by
  constructor
  · rintro ⟨i, hi⟩
    obtain ⟨t, hwritten, hexists, -⟩ := ofStrict?_eq_some_iff.1 hi
    by_cases hleap : t.second = 60
    · exact .inr ⟨t, hwritten, hexists, hleap⟩
    · have hday : t.date.IsDay t.date.date.day := Civil.isDay_iff.2 (Civil.civil_date hexists.date)
      exact .inl ⟨_, t, _, hwritten, hexists, hleap, hday, rfl⟩
  · rintro (⟨x, hx⟩ | ⟨t, hwritten, hexists, -⟩)
    · obtain ⟨i, hi, -⟩ := ofStrict?_of_denotes hx
      exact ⟨i, hi⟩
    · exact ⟨_, ofStrict?_eq_some_iff.2 ⟨t, hwritten, hexists, rfl⟩⟩

end Instant

end FlowRuns
