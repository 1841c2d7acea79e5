import Mathlib.Algebra.Group.Nat.Defs
import FlowRuns.Calendar.Timestamp

/-!
# Internet time stamps

The form of internet time stamps, as a grammar: a date and a time of day in fields of fixed width, a fraction
of the second with any number of digits, and an offset. Reading accepts exactly these texts.

* `Timestamp.Field`, `Timestamp.Fraction`, `Timestamp.Zone` — the parts.
* `Timestamp.Written` — **the form**, with what it stands for.
* `Timestamp.number?_eq_some_iff`, `Timestamp.offset?_eq_some_iff` — the parts read.
* `Timestamp.ofStrict?_eq_some_iff` — **a text is read** as the time stamp that it is the form of.
-/

namespace FlowRuns.Timestamp

variable {s rest digits : List Char} {n width : Nat}

/-! ## The form -/

/-- A number in as many digits as there are places. -/
structure Field (width : Nat) (digits : List Char) (n : Nat) : Prop where
  /-- the places -/
  width : digits.length = width
  /-- the digits -/
  digit : ∀ c ∈ digits, c.isDigit = true
  /-- the number -/
  value : Nat.ofDigitChars 10 digits 0 = n

/-- A fraction of a second, in nanoseconds. -/
inductive Fraction : List Char → Nat → Prop where
  /-- there is none -/
  | none : Fraction [] 0
  /-- a point with digits; what is less than a nanosecond is dropped -/
  | digits {width n : Nat} {digits : List Char} (h : Field (width + 1) digits n) :
    Fraction ('.' :: digits) (n * 10 ^ 9 / 10 ^ (width + 1))

/-- The signs of an offset: a plus sign ahead of universal time, a hyphen or a minus sign proper behind it. -/
def signs : Bool → List Char
  | false => ['+']
  | true => ['-', '−']

/-- An offset, in seconds. -/
inductive Zone : List Char → Int → Prop where
  /-- universal time -/
  | universal {c : Char} (hc : c ∈ ['Z', 'z']) : Zone [c] 0
  /-- hours and minutes ahead of it or behind it -/
  | signed {behind : Bool} {c : Char} (hc : c ∈ signs behind) {hours minutes : List Char} {h m : Nat}
    (hhours : Field 2 hours h) (hminutes : Field 2 minutes m) (hm : m ≤ 59) :
    Zone (c :: (hours ++ ':' :: minutes))
      (if behind then -((h * 3600 + m * 60 : Nat) : Int) else (h * 3600 + m * 60 : Nat))

/-- **The form** of a time stamp, and the time stamp that it stands for. -/
inductive Written : List Char → Timestamp → Prop where
  /-- a date, a mark, a time of day with a fraction, and an offset -/
  | intro {year month day hour minute second fraction zone : List Char} {y mo d h mi sec nano : Nat}
    {offset : Int} {middle : Char} (hyear : Field 4 year y) (hmonth : Field 2 month mo)
    (hday : Field 2 day d) (hmiddle : middle ∈ ['T', 't', ' ']) (hhour : Field 2 hour h)
    (hminute : Field 2 minute mi) (hsecond : Field 2 second sec) (hfraction : Fraction fraction nano)
    (hzone : Zone zone offset) :
    Written (year ++ '-' :: (month ++ '-' :: (day ++ middle :: (hour ++ ':' :: (minute ++ ':' ::
      (second ++ (fraction ++ zone))))))) ⟨⟨y, mo, d⟩, h, mi, sec, nano, offset⟩

/-! ## Numbers -/

/-- Digits that are read are the first ones. -/
theorem number?_eq {least most : Nat} (s : List Char) :
    number? least most s = if least ≤ ((s.takeWhile Char.isDigit).take most).length then
      some (Nat.ofDigitChars 10 ((s.takeWhile Char.isDigit).take most) 0,
        s.drop ((s.takeWhile Char.isDigit).take most).length)
      else none := by
  rw [List.take_takeWhile]
  rfl

/-- **A number** is read from as many digits. -/
theorem number?_eq_some_iff : number? width width s = some (n, rest) ↔
    ∃ digits, s = digits ++ rest ∧ Field width digits n := by
  rw [number?_eq]
  constructor
  · intro h
    split at h
    next hwidth =>
      obtain ⟨hn, hrest⟩ := Prod.mk.inj (Option.some.inj h)
      have hlength : ((s.takeWhile Char.isDigit).take width).length = width :=
        Nat.le_antisymm (List.length_take_le _ _) hwidth
      have hprefix : (s.takeWhile Char.isDigit).take width <+: s :=
        (List.take_prefix _ _).trans (List.takeWhile_prefix _)
      refine ⟨_, ?_, hlength, fun c hc => ?_, hn⟩
      · rw [← hrest]
        exact (List.prefix_iff_eq_append.1 hprefix).symm
      · exact List.all_eq_true.1 List.all_takeWhile c (List.mem_of_mem_take hc)
    next => cases h
  · rintro ⟨digits, rfl, hlength, hdigits, rfl⟩
    have hread : ((digits ++ rest).takeWhile Char.isDigit).take width = digits := by
      rw [List.takeWhile_append_of_pos hdigits, ← hlength, List.take_left]
    rw [hread, if_pos (Nat.le_of_eq hlength.symm), List.drop_left]

theorem after?_eq_some_iff {c : Char} : after? c s = some rest ↔ s = c :: rest := by
  cases s with
  | nil => simp [after?]
  | cons d s => simp [after?]

theorem middle?_eq_some_iff : middle? s = some rest ↔ ∃ c ∈ ['T', 't', ' '], s = c :: rest := by
  unfold middle?
  split <;> simp_all

/-! ## Fractions -/

/-- Digits spell a number with no more places. -/
theorem ofDigitChars_lt (hdigits : ∀ c ∈ digits, c.isDigit = true) :
    Nat.ofDigitChars 10 digits 0 < 10 ^ digits.length := by
  induction digits with
  | nil => decide
  | cons c digits ih =>
    have hrest := ih fun d hd => hdigits d (List.mem_cons_of_mem c hd)
    have hc : c.toNat - '0'.toNat ≤ 9 := by
      have hdigit := hdigits c List.mem_cons_self
      simp only [Char.isDigit, Bool.and_eq_true, decide_eq_true_eq, UInt32.le_iff_toNat_le] at hdigit
      have hnine : '9'.val.toNat = 57 ∧ '0'.toNat = 48 := by decide
      simp only [Char.toNat] at hnine ⊢
      omega
    rw [Nat.ofDigitChars_cons, Nat.ofDigitChars_eq_ofDigitChars_zero, List.length_cons, Nat.pow_succ,
      Nat.mul_zero, Nat.zero_add]
    have hbound : 10 ^ digits.length * (c.toNat - '0'.toNat) ≤ 10 ^ digits.length * 9 :=
      Nat.mul_le_mul_left _ hc
    omega

/-- **Nine digits are read** of a fraction, and that is its nanoseconds. -/
theorem nano_eq (hdigits : ∀ c ∈ digits, c.isDigit = true) :
    numberOf (digits.take 9 ++ List.replicate (9 - (digits.take 9).length) '0') =
      Nat.ofDigitChars 10 digits 0 * 10 ^ 9 / 10 ^ digits.length := by
  have hnumber : numberOf (digits.take 9 ++ List.replicate (9 - (digits.take 9).length) '0') =
      10 ^ (9 - (digits.take 9).length) * Nat.ofDigitChars 10 (digits.take 9) 0 := by
    rw [← Nat.ofDigitChars_replicate_zero, ← Nat.ofDigitChars_append]
    rfl
  rw [hnumber]
  by_cases hshort : digits.length ≤ 9
  · rw [List.take_of_length_le hshort]
    have hplaces : 10 ^ 9 = 10 ^ (9 - digits.length) * 10 ^ digits.length := by
      rw [← Nat.pow_add, Nat.sub_add_cancel hshort]
    rw [hplaces, ← Nat.mul_assoc, Nat.mul_div_cancel _ (Nat.pow_pos (by decide)), Nat.mul_comm]
  · have hnine : (digits.take 9).length = 9 := List.length_take_of_le (by omega)
    have hsplit : Nat.ofDigitChars 10 digits 0 = 10 ^ (digits.drop 9).length *
        Nat.ofDigitChars 10 (digits.take 9) 0 + Nat.ofDigitChars 10 (digits.drop 9) 0 := by
      rw [← Nat.ofDigitChars_eq_ofDigitChars_zero, ← Nat.ofDigitChars_append, List.take_append_drop]
    have hplaces : 10 ^ digits.length = 10 ^ (digits.drop 9).length * 10 ^ 9 := by
      rw [← Nat.pow_add, List.length_drop, Nat.sub_add_cancel (by omega)]
    have hdropped : Nat.ofDigitChars 10 (digits.drop 9) 0 < 10 ^ (digits.drop 9).length :=
      ofDigitChars_lt fun c hc => hdigits c (List.mem_of_mem_drop hc)
    rw [hnine, hplaces, Nat.mul_div_mul_right _ _ (by decide), hsplit,
      Nat.mul_add_div (Nat.pow_pos (by decide)), Nat.div_eq_of_lt hdropped]
    omega

/-- A fraction is read as far as there are digits. -/
theorem fraction?_append (hdigits : ∀ c ∈ digits, c.isDigit = true)
    (hrest : ∀ c, rest.head? = some c → c.isDigit = false) : fraction? ('.' :: (digits ++ rest)) =
      if digits = [] then none
      else some (Nat.ofDigitChars 10 digits 0 * 10 ^ 9 / 10 ^ digits.length, rest) := by
  have hall : (digits ++ rest).takeWhile Char.isDigit = digits := by
    rw [List.takeWhile_append_of_pos hdigits]
    cases rest with
    | nil => exact List.append_nil digits
    | cons c rest => rw [List.takeWhile_cons_of_neg (by simp [hrest c rfl]), List.append_nil]
  have hover : (digits.drop (digits.take 9).length ++ rest).dropWhile Char.isDigit = rest := by
    rw [List.dropWhile_append_of_pos fun c hc => hdigits c (List.mem_of_mem_drop hc)]
    cases rest with
    | nil => rfl
    | cons c rest => exact List.dropWhile_cons_of_neg (by simp [hrest c rfl])
  have hle : (digits.take 9).length ≤ digits.length := (List.take_prefix 9 digits).length_le
  have hprefix : digits.take 9 <+: digits ++ rest :=
    (List.take_prefix 9 digits).trans (List.prefix_append digits rest)
  simp only [fraction?, number?_eq, hall]
  by_cases hnone : digits = []
  · subst hnone
    rfl
  · have hsome : 1 ≤ (digits.take 9).length := by
      have hpos := List.length_pos_iff.2 hnone
      rw [List.length_take]
      omega
    have hwritten : (digits ++ rest).take ((digits ++ rest).length -
        ((digits ++ rest).drop (digits.take 9).length).length) = digits.take 9 := by
      rw [List.length_drop, Nat.sub_sub_self hprefix.length_le]
      exact (List.prefix_iff_eq_take.1 hprefix).symm
    rw [if_pos hsome, if_neg hnone, Option.map_some]
    dsimp only
    rw [hwritten, nano_eq hdigits, List.drop_append_of_le_length hle, hover]

/-- A fraction that something else follows is read. -/
theorem fraction?_of_fraction (h : Fraction digits n)
    (hrest : ∀ c, rest.head? = some c → c.isDigit = false ∧ c ≠ '.') :
    fraction? (digits ++ rest) = some (n, rest) := by
  cases h with
  | none =>
    cases rest with
    | nil => rfl
    | cons c rest =>
      unfold fraction?
      split
      next heq => exact absurd (List.cons.inj heq).1 (hrest c rfl).2
      next => rfl
  | @digits width n digits h =>
    obtain ⟨hlength, hdigits, rfl⟩ := h
    have hne : digits ≠ [] := List.ne_nil_of_length_eq_add_one hlength
    rw [List.cons_append, fraction?_append hdigits fun c hc => (hrest c hc).1, if_neg hne, hlength]

/-- What is read as a fraction is one. -/
theorem exists_fraction (h : fraction? s = some (n, rest)) :
    ∃ digits, s = digits ++ rest ∧ Fraction digits n := by
  have hplain (hs : fraction? s = some (0, s)) : ∃ digits, s = digits ++ rest ∧ Fraction digits n := by
    obtain ⟨rfl, rfl⟩ := Prod.mk.inj (Option.some.inj (hs.symm.trans h))
    exact ⟨[], rfl, .none⟩
  cases s with
  | nil => exact hplain rfl
  | cons c s =>
    by_cases hpoint : c = '.'
    · subst hpoint
      have hall : ∀ c ∈ s.takeWhile Char.isDigit, c.isDigit = true := List.all_eq_true.1 List.all_takeWhile
      have hend : ∀ c, (s.dropWhile Char.isDigit).head? = some c → c.isDigit = false := fun c hc => by
        have hnot := List.head?_dropWhile_not Char.isDigit s
        rw [hc] at hnot
        simpa using hnot
      rw [← List.takeWhile_append_dropWhile (p := Char.isDigit) (l := s), fraction?_append hall hend] at h
      split at h
      next => cases h
      next hne =>
        obtain ⟨rfl, rfl⟩ := Prod.mk.inj (Option.some.inj h)
        obtain ⟨width, hwidth⟩ := Nat.exists_eq_succ_of_ne_zero (mt List.length_eq_zero_iff.1 hne)
        refine ⟨'.' :: s.takeWhile Char.isDigit, ?_, ?_⟩
        · rw [List.cons_append, List.takeWhile_append_dropWhile]
        · rw [hwidth]
          exact .digits ⟨hwidth, hall, rfl⟩
    · refine hplain ?_
      unfold fraction?
      split
      next heq => exact absurd (List.cons.inj heq).1 hpoint
      next => rfl

/-! ## Offsets -/

theorem sign?_eq_some_iff {behind : Bool} : sign? s = some (behind, rest) ↔
    ∃ c, s = c :: rest ∧ c ∈ signs behind := by
  constructor
  · intro h
    unfold sign? at h
    split at h
    next =>
      cases h
      exact ⟨'+', rfl, by decide⟩
    next =>
      cases h
      exact ⟨'-', rfl, by decide⟩
    next =>
      cases h
      exact ⟨'−', rfl, by decide⟩
    next => cases h
  · rintro ⟨c, rfl, hc⟩
    cases behind with
    | false =>
      obtain rfl := List.mem_singleton.1 hc
      rfl
    | true =>
      simp only [signs, List.mem_cons, List.not_mem_nil, or_false] at hc
      obtain rfl | rfl := hc <;> rfl

theorem ne_of_mem_signs {behind : Bool} {c : Char} (hc : c ∈ signs behind) : c ≠ 'Z' ∧ c ≠ 'z' := by
  have hmem : c ∈ ['+', '-', '−'] := by
    cases behind with
    | false => exact List.mem_append_left ['-', '−'] hc
    | true => exact List.mem_append_right ['+'] hc
  simp only [List.mem_cons, List.not_mem_nil, or_false] at hmem
  rcases hmem with rfl | rfl | rfl <;> decide

/-- What is read as an offset with a sign. -/
theorem offset?_cons_eq_some_iff {c : Char} (hc : c ≠ 'Z' ∧ c ≠ 'z') {i : Int} :
    offset? (after? ':') (c :: s) = some (i, rest) ↔ ∃ behind hours minutes h m, c ∈ signs behind ∧
      s = hours ++ ':' :: (minutes ++ rest) ∧ Field 2 hours h ∧ Field 2 minutes m ∧ m ≤ 59 ∧
      i = if behind then -((h * 3600 + m * 60 : Nat) : Int) else (h * 3600 + m * 60 : Nat) := by
  unfold offset?
  split
  next heq => exact absurd (List.cons.inj heq).1 hc.1
  next heq => exact absurd (List.cons.inj heq).1 hc.2
  next =>
    simp only [Option.bind_eq_bind, Option.bind_eq_some_iff, Prod.exists]
    constructor
    · rintro ⟨behind, _, hsign, h, _, hours?, _, hcolon, m, _, minutes?, hend⟩
      obtain ⟨d, hd, hmark⟩ := sign?_eq_some_iff.1 hsign
      obtain ⟨rfl, rfl⟩ := List.cons.inj hd
      obtain ⟨hours, rfl, hhours⟩ := number?_eq_some_iff.1 hours?
      obtain rfl := after?_eq_some_iff.1 hcolon
      obtain ⟨minutes, rfl, hminutes⟩ := number?_eq_some_iff.1 minutes?
      split at hend
      next hm =>
        obtain ⟨rfl, rfl⟩ := Prod.mk.inj (Option.some.inj hend)
        exact ⟨behind, hours, minutes, h, m, hmark, rfl, hhours, hminutes, hm, rfl⟩
      next => cases hend
    · rintro ⟨behind, hours, minutes, h, m, hmark, rfl, hhours, hminutes, hm, rfl⟩
      refine ⟨behind, _, sign?_eq_some_iff.2 ⟨c, rfl, hmark⟩, h, _,
        number?_eq_some_iff.2 ⟨hours, rfl, hhours⟩, _, after?_eq_some_iff.2 rfl, m, _,
        number?_eq_some_iff.2 ⟨minutes, rfl, hminutes⟩, ?_⟩
      rw [if_pos hm]

/-- **An offset** is read, and all of what follows it is left. -/
theorem offset?_eq_some_iff {i : Int} : offset? (after? ':') s = some (i, rest) ↔
    ∃ zone, s = zone ++ rest ∧ Zone zone i := by
  constructor
  · intro h
    cases s with
    | nil => cases h
    | cons c s =>
      by_cases huniversal : c ∈ ['Z', 'z']
      · have hread : offset? (after? ':') (c :: s) = some (0, s) := by
          simp only [List.mem_cons, List.not_mem_nil, or_false] at huniversal
          obtain rfl | rfl := huniversal <;> rfl
        obtain ⟨rfl, rfl⟩ := Prod.mk.inj (Option.some.inj (hread.symm.trans h))
        exact ⟨[c], rfl, .universal huniversal⟩
      · simp only [List.mem_cons, List.not_mem_nil, or_false, not_or] at huniversal
        obtain ⟨behind, hours, minutes, h, m, hmark, rfl, hhours, hminutes, hm, rfl⟩ :=
          (offset?_cons_eq_some_iff huniversal).1 h
        exact ⟨c :: (hours ++ ':' :: minutes), by simp, .signed hmark hhours hminutes hm⟩
  · rintro ⟨zone, rfl, hzone⟩
    cases hzone with
    | universal hc =>
      simp only [List.mem_cons, List.not_mem_nil, or_false] at hc
      obtain rfl | rfl := hc <;> rfl
    | @signed behind c hc hours minutes h m hhours hminutes hm =>
      rw [List.cons_append, List.append_assoc, List.cons_append]
      exact (offset?_cons_eq_some_iff (ne_of_mem_signs hc)).2
        ⟨behind, hours, minutes, h, m, hc, rfl, hhours, hminutes, hm, rfl⟩

/-- An offset begins neither with a digit nor with a point. -/
theorem Zone.head? {zone : List Char} {i : Int} (h : Zone zone i) (c : Char) (hc : zone.head? = some c) :
    c.isDigit = false ∧ c ≠ '.' := by
  cases h with
  | universal hd =>
    obtain rfl := Option.some.inj hc
    simp only [List.mem_cons, List.not_mem_nil, or_false] at hd
    obtain rfl | rfl := hd <;> decide
  | @signed behind d hd =>
    obtain rfl := Option.some.inj hc
    cases behind with
    | false =>
      obtain rfl := List.mem_singleton.1 hd
      decide
    | true =>
      simp only [signs, List.mem_cons, List.not_mem_nil, or_false] at hd
      obtain rfl | rfl := hd <;> decide

/-! ## Time stamps -/

/-- **A text is read** as the time stamp that it is the form of. -/
theorem ofStrict?_eq_some_iff {t : Timestamp} : ofStrict? s = some t ↔ Written s t := by
  simp only [ofStrict?, Option.bind_eq_bind, Option.bind_eq_some_iff, Prod.exists]
  constructor
  · rintro ⟨y, _, year?, _, hhyphen, mo, _, month?, _, hhyphen', d, _, day?, _, hmiddle, h, _, hour?, _,
      hcolon, mi, _, minute?, _, hcolon', sec, _, second?, nano, _, fraction?, offset, left, zone?, hend⟩
    obtain ⟨year, rfl, hyear⟩ := number?_eq_some_iff.1 year?
    obtain rfl := after?_eq_some_iff.1 hhyphen
    obtain ⟨month, rfl, hmonth⟩ := number?_eq_some_iff.1 month?
    obtain rfl := after?_eq_some_iff.1 hhyphen'
    obtain ⟨day, rfl, hday⟩ := number?_eq_some_iff.1 day?
    obtain ⟨middle, hmem, rfl⟩ := middle?_eq_some_iff.1 hmiddle
    obtain ⟨hour, rfl, hhour⟩ := number?_eq_some_iff.1 hour?
    obtain rfl := after?_eq_some_iff.1 hcolon
    obtain ⟨minute, rfl, hminute⟩ := number?_eq_some_iff.1 minute?
    obtain rfl := after?_eq_some_iff.1 hcolon'
    obtain ⟨second, rfl, hsecond⟩ := number?_eq_some_iff.1 second?
    obtain ⟨fraction, rfl, hfraction⟩ := exists_fraction fraction?
    obtain ⟨zone, rfl, hzone⟩ := offset?_eq_some_iff.1 zone?
    split at hend
    next hempty =>
      obtain rfl := List.isEmpty_iff.1 hempty
      obtain rfl := Option.some.inj hend
      rw [List.append_nil]
      exact .intro hyear hmonth hday hmem hhour hminute hsecond hfraction hzone
    next => cases hend
  · rintro ⟨hyear, hmonth, hday, hmem, hhour, hminute, hsecond, hfraction, hzone⟩
    refine ⟨_, _, number?_eq_some_iff.2 ⟨_, rfl, hyear⟩, _, after?_eq_some_iff.2 rfl,
      _, _, number?_eq_some_iff.2 ⟨_, rfl, hmonth⟩, _, after?_eq_some_iff.2 rfl,
      _, _, number?_eq_some_iff.2 ⟨_, rfl, hday⟩, _, middle?_eq_some_iff.2 ⟨_, hmem, rfl⟩,
      _, _, number?_eq_some_iff.2 ⟨_, rfl, hhour⟩, _, after?_eq_some_iff.2 rfl,
      _, _, number?_eq_some_iff.2 ⟨_, rfl, hminute⟩, _, after?_eq_some_iff.2 rfl,
      _, _, number?_eq_some_iff.2 ⟨_, rfl, hsecond⟩, _, _, fraction?_of_fraction hfraction hzone.head?,
      _, [], offset?_eq_some_iff.2 ⟨_, (List.append_nil _).symm, hzone⟩, rfl⟩

end FlowRuns.Timestamp
