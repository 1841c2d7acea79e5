/-!
# Binary floating point of 64 bits, by exact arithmetic

Durations are 64-bit binary floating-point numbers. Every finite one is a whole number of
*units*, the unit being `2 ^ (-1074)`, the least positive value; so a finite number is a sign and
a natural number of units, and every operation is an exact computation on natural numbers
followed by one rounding.

* `Magnitude` — a number of units that has a place in the format: at most 53 significant binary
  digits, and below `2 ^ 1024`.
* `Magnitude.round` — the nearest magnitude to a quotient, ties to the even one; `none` above
  the largest. That its result has a place in the format is the lemma `representable_round`.
* `Binary64` — not a number, the two infinities, and the signed magnitudes.

One *not a number* stands for all of them: sign and payload of such a value never show.
-/

namespace FlowRuns

/-- Powers are those of the natural numbers themselves, whatever else is imported. -/
local instance (priority := 2000) powerInUnits : Pow Nat Nat := instPowNat

/-! ## Magnitudes -/

/-- The unit is `2 ^ (-1074)`. -/
def Binary64.unitExponent : Nat := 1074

/-- The number of units in `1`: `1 = 2 ^ 1074 · 2 ^ (-1074)`. -/
def Binary64.unitsPerOne : Nat := 2 ^ unitExponent

/-- How many binary digits of a number are kept. -/
def Binary64.precision : Nat := 53

/-- The power of two that ends the format: `2 ^ 1024 = 2 ^ 2098` units. -/
def Binary64.endExponent : Nat := 2098

/-- The first power of two without a place in the format, in units. -/
def Binary64.limit : Nat := 2 ^ endExponent

theorem Binary64.limit_pos : 0 < Binary64.limit := Nat.two_pow_pos endExponent

/-- A number of units has a place in the format when it is below the limit and all but its
leading 53 binary digits are zero. -/
def Binary64.Representable (units : Nat) : Prop :=
  units < Binary64.limit ∧ 2 ^ (units.log2 - 52) ∣ units

instance (units : Nat) : Decidable (Binary64.Representable units) :=
  inferInstanceAs (Decidable (_ ∧ _))

/-- The absolute value of a finite number, counted in units. -/
structure Magnitude where
  /-- how many units -/
  units : Nat
  /-- the count has a place in the format -/
  representable : Binary64.Representable units
  deriving DecidableEq

namespace Magnitude

theorem ext {a b : Magnitude} (h : a.units = b.units) : a = b := by
  cases a; cases b; cases h; rfl

/-- No units at all. -/
def zero : Magnitude :=
  ⟨0, Binary64.limit_pos, Nat.dvd_zero _⟩

/-- The largest magnitude, `(2 ^ 53 - 1) · 2 ^ 971`. -/
def largest : Magnitude :=
  ⟨(2 ^ Binary64.precision - 1) * 2 ^ (Binary64.endExponent - Binary64.precision),
    by decide +kernel, by decide +kernel⟩

/-- The quotient `num / den` as a whole number, a half going to the even neighbour. -/
def roundHalfEven (num den : Nat) : Nat :=
  let q := num / den
  let r := num % den
  if 2 * r < den then q else if den < 2 * r then q + 1 else q + q % 2

theorem roundHalfEven_le (num den : Nat) : roundHalfEven num den ≤ num / den + 1 := by
  unfold roundHalfEven
  dsimp only
  split
  · omega
  · split <;> omega

/-- A whole quotient is its own rounding. -/
theorem roundHalfEven_mul (q den : Nat) (h : 0 < den) : roundHalfEven (q * den) den = q := by
  unfold roundHalfEven
  simp [Nat.mul_div_cancel _ h, h]

/-- How many low binary digits of the quotient `num / den` fall outside the 53 leading ones. -/
def dropped (num den : Nat) : Nat := (num / den).log2 - 52

/-- The quotient `num / den` with its low digits rounded away, as a number of units. -/
def roundUnits (num den : Nat) : Nat :=
  roundHalfEven num (den * 2 ^ dropped num den) * 2 ^ dropped num den

/-- Rounding keeps at most 53 significant digits; a carry to `2 ^ 53` is a power of two. -/
theorem roundHalfEven_dropped_le (num den : Nat) :
    roundHalfEven num (den * 2 ^ dropped num den) ≤ 2 ^ Binary64.precision := by
  refine Nat.le_trans (roundHalfEven_le _ _) ?_
  rw [← Nat.div_div_eq_div_mul]
  have hlt : num / den < 2 ^ (Binary64.precision + dropped num den) := by
    refine Nat.lt_of_lt_of_le (Nat.lt_log2_self (n := num / den)) ?_
    refine Nat.pow_le_pow_right (by decide) ?_
    unfold dropped Binary64.precision
    omega
  have : num / den / 2 ^ dropped num den < 2 ^ Binary64.precision := by
    rw [Nat.div_lt_iff_lt_mul (Nat.two_pow_pos _), ← Nat.pow_add]
    exact hlt
  omega

/-- What rounding gives has zeros below its 53 leading digits. -/
theorem dvd_roundUnits (num den : Nat) :
    2 ^ ((roundUnits num den).log2 - 52) ∣ roundUnits num den := by
  have hle := roundHalfEven_dropped_le num den
  unfold roundUnits
  generalize roundHalfEven num (den * 2 ^ dropped num den) = m at hle ⊢
  generalize dropped num den = e
  rcases Nat.eq_zero_or_pos m with rfl | hpos
  · simp
  rcases Nat.lt_or_eq_of_le hle with hlt | rfl
  · have hne : m * 2 ^ e ≠ 0 := Nat.pos_iff_ne_zero.1 (Nat.mul_pos hpos (Nat.two_pow_pos e))
    have hlog : (m * 2 ^ e).log2 < Binary64.precision + e := by
      rw [Nat.log2_lt hne, Nat.pow_add]
      exact Nat.mul_lt_mul_of_pos_right hlt (Nat.two_pow_pos e)
    unfold Binary64.precision at hlog
    exact Nat.dvd_trans (Nat.pow_dvd_pow 2 (by omega)) (Nat.dvd_mul_left _ _)
  · rw [← Nat.pow_add, Nat.log2_two_pow]
    exact Nat.pow_dvd_pow 2 (by omega)

/-- The magnitude nearest to `num / den` units, ties to the one with an even last digit; `none`
when that would be `2 ^ 1024` or more. -/
def round (num den : Nat) : Option Magnitude :=
  if h : roundUnits num den < Binary64.limit then
    some ⟨roundUnits num den, h, dvd_roundUnits num den⟩
  else none

/-- **Rounding is exact on the format**: a magnitude is its own nearest magnitude. -/
theorem round_units (m : Magnitude) : round m.units 1 = some m := by
  have hu : roundUnits m.units 1 = m.units := by
    obtain ⟨u, -, q, hq⟩ := m
    simp only [roundUnits, dropped, Nat.div_one, Nat.one_mul]
    generalize u.log2 - 52 = e at hq ⊢
    rw [hq, Nat.mul_comm _ q, roundHalfEven_mul q _ (Nat.two_pow_pos e)]
  unfold round
  rw [dif_pos (by rw [hu]; exact m.representable.1)]
  exact congrArg some (ext hu)

end Magnitude

/-! ## Numbers -/

/-- A 64-bit binary floating-point number. -/
inductive Binary64 where
  /-- not a number -/
  | nan
  /-- an infinity -/
  | infinite (negative : Bool)
  /-- a signed magnitude; both zeros are finite numbers -/
  | finite (negative : Bool) (magnitude : Magnitude)
  deriving DecidableEq

namespace Binary64

/-- Positive zero. -/
def zero : Binary64 := finite false .zero

/-- Negative zero, the neutral element of addition. -/
def negativeZero : Binary64 := finite true .zero

/-- The largest finite number. -/
def largest : Binary64 := finite false .largest

/-- The least finite number. -/
def lowest : Binary64 := finite true .largest

instance : Inhabited Binary64 := ⟨zero⟩

/-- Whether this is no number. -/
def isNaN : Binary64 → Bool
  | nan => true
  | _ => false

/-- Whether this is one of the two infinities. -/
def isInfinite : Binary64 → Bool
  | infinite _ => true
  | _ => false

/-- The number nearest to `num / den` units with a given sign, the infinity of that sign beyond
the largest one. -/
def nearest (negative : Bool) (num den : Nat) : Binary64 :=
  match Magnitude.round num den with
  | some m => finite negative m
  | none => infinite negative

/-- The signed number of units of a finite number. -/
def signedUnits (negative : Bool) (m : Magnitude) : Int :=
  if negative then -(m.units : Int) else m.units

/-- A natural number, rounded where it has more than 53 significant digits. -/
def ofNat (n : Nat) : Binary64 := nearest false (n * unitsPerOne) 1

/-- An integer, rounded where it has more than 53 significant digits. -/
def ofInt (i : Int) : Binary64 := nearest (i < 0) (i.natAbs * unitsPerOne) 1

instance : NatCast Binary64 := ⟨ofNat⟩

/-- Sign change. -/
def neg : Binary64 → Binary64
  | nan => nan
  | infinite s => infinite (!s)
  | finite s m => finite (!s) m

instance : Neg Binary64 := ⟨neg⟩

/-- Addition: exact, then rounded. A sum of zero is positive unless both terms are negative
zeros. -/
def add : Binary64 → Binary64 → Binary64
  | nan, _ => nan
  | _, nan => nan
  | infinite s, infinite t => if s = t then infinite s else nan
  | infinite s, finite _ _ => infinite s
  | finite _ _, infinite t => infinite t
  | finite s a, finite t b =>
    let sum := signedUnits s a + signedUnits t b
    if sum = 0 then finite (s && t) .zero else nearest (sum < 0) sum.natAbs 1

instance : Add Binary64 := ⟨add⟩

/-- Multiplication: exact, then rounded; zero times an infinity is no number. -/
def mul : Binary64 → Binary64 → Binary64
  | nan, _ => nan
  | _, nan => nan
  | infinite s, infinite t => infinite (s ^^ t)
  | infinite s, finite t b => if b.units = 0 then nan else infinite (s ^^ t)
  | finite s a, infinite t => if a.units = 0 then nan else infinite (s ^^ t)
  | finite s a, finite t b => nearest (s ^^ t) (a.units * b.units) unitsPerOne

instance : Mul Binary64 := ⟨mul⟩

/-- Division: exact, then rounded; zero by zero and infinity by infinity are no numbers, any other
number by zero is an infinity. -/
def div : Binary64 → Binary64 → Binary64
  | nan, _ => nan
  | _, nan => nan
  | infinite _, infinite _ => nan
  | infinite s, finite t _ => infinite (s ^^ t)
  | finite s _, infinite t => finite (s ^^ t) .zero
  | finite s a, finite t b =>
    if b.units = 0 then if a.units = 0 then nan else infinite (s ^^ t)
    else nearest (s ^^ t) (a.units * unitsPerOne) b.units

instance : Div Binary64 := ⟨div⟩

/-! ## Order -/

/-- `x < y`; no number is neither less nor greater than anything, and the zeros are equal. -/
def lt : Binary64 → Binary64 → Bool
  | nan, _ => false
  | _, nan => false
  | infinite s, infinite t => s && !t
  | infinite s, finite _ _ => s
  | finite _ _, infinite t => !t
  | finite s a, finite t b => signedUnits s a < signedUnits t b

/-- `x ≤ y`, false as soon as one of the two is no number. -/
def le (x y : Binary64) : Bool := !x.isNaN && !y.isNaN && !lt y x

/-- Numeric equality: the zeros are equal, no number equals nothing. -/
def numEq (x y : Binary64) : Bool := le x y && le y x

/-- The greater of two; where one is no number, the other. -/
def maxNum (x y : Binary64) : Binary64 :=
  if x.isNaN then y else if y.isNaN then x else if lt x y then y else x

/-- The lesser of two; where one is no number, the other. -/
def minNum (x y : Binary64) : Binary64 :=
  if x.isNaN then y else if y.isNaN then x else if lt y x then y else x

/-! ## Whole numbers -/

/-- The least integer that is not below a number of units. -/
def ceilUnits (negative : Bool) (m : Magnitude) : Int :=
  -((-signedUnits negative m) / (unitsPerOne : Int))

/-- The integer nearest to a number of units, a half going away from zero. -/
def roundAwayUnits (negative : Bool) (m : Magnitude) : Int :=
  let whole : Int := ((2 * m.units + unitsPerOne) / (2 * unitsPerOne) : Nat)
  if negative then -whole else whole

/-- The integer `i` held between two bounds. -/
def saturate (low high i : Int) : Int := if i < low then low else if high < i then high else i

/-- The number rounded up to a whole one, as a signed 64-bit integer: beyond its range the nearest
end, and zero for no number. -/
def ceilInt64 : Binary64 → Int64
  | nan => 0
  | infinite negative => if negative then Int64.minValue else Int64.maxValue
  | finite negative m =>
    Int64.ofInt (saturate Int64.minValue.toInt Int64.maxValue.toInt (ceilUnits negative m))

/-- The number rounded to the nearest whole one, a half away from zero, as an unsigned 64-bit
integer: beyond its range the nearest end, and zero for no number. -/
def roundUInt64 : Binary64 → UInt64
  | nan => 0
  | infinite negative => if negative then 0 else UInt64.ofNat (UInt64.size - 1)
  | finite negative m =>
    UInt64.ofNat (saturate 0 (UInt64.size - 1) (roundAwayUnits negative m)).toNat

/-! ## Bit patterns -/

/-- The bit of the sign. -/
def signBit : Nat := 0x8000000000000000

/-- The leading digit of a number with all its digits, above the 52 that are written. -/
def leadingBit : Nat := 0x10000000000000

/-- How many values the field of the exponent has. -/
def exponentValues : Nat := 0x800

/-- The 64 bits: sign, 11 digits of exponent, 52 digits below the leading one. Since the exponent
field counts how far the leading digit stands above the 53rd place, it adds up with the digits. -/
def toBits : Binary64 → UInt64
  | nan => 0x7ff8000000000000
  | infinite negative =>
    UInt64.ofNat ((if negative then signBit else 0) + (exponentValues - 1) * leadingBit)
  | finite negative m =>
    let e := m.units.log2 - 52
    UInt64.ofNat ((if negative then signBit else 0) + (e * leadingBit + m.units / 2 ^ e))

/-- The number with a given bit pattern. -/
def ofBits (bits : UInt64) : Binary64 :=
  let negative := decide (signBit ≤ bits.toNat)
  let field := bits.toNat / leadingBit % exponentValues
  let digits := bits.toNat % leadingBit
  if field = exponentValues - 1 then if digits = 0 then infinite negative else nan
  else if field = 0 then nearest negative digits 1
  else nearest negative ((leadingBit + digits) * 2 ^ (field - 1)) 1

end Binary64

end FlowRuns
