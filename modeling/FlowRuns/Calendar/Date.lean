/-!
# Calendar dates

A date is the number of days since 1970-01-01; year, month and day are a view of it, by the rules
of the Gregorian calendar extended to all years. Ordering dates is ordering day numbers.
-/

namespace FlowRuns

/-- A calendar date. -/
structure Date where
  /-- days since 1970-01-01 -/
  day : Int
  deriving DecidableEq, Inhabited

namespace Date

instance : LT Date := ⟨fun a b => a.day < b.day⟩

instance : LE Date := ⟨fun a b => a.day ≤ b.day⟩

instance (a b : Date) : Decidable (a < b) := inferInstanceAs (Decidable (a.day < b.day))

instance (a b : Date) : Decidable (a ≤ b) := inferInstanceAs (Decidable (a.day ≤ b.day))

theorem lt_def {a b : Date} : a < b ↔ a.day < b.day := Iff.rfl

theorem le_def {a b : Date} : a ≤ b ↔ a.day ≤ b.day := Iff.rfl

theorem ext {a b : Date} (h : a.day = b.day) : a = b := by
  cases a; cases b; cases h; rfl

end Date

/-! ## Year, month and day -/

/-- A date by year, month and day. -/
structure Civil where
  /-- the year; the year before 1 is 0 -/
  year : Int
  /-- the month, from 1 -/
  month : Nat
  /-- the day of the month, from 1 -/
  day : Nat
  deriving DecidableEq, Inhabited

namespace Civil

/-- Every fourth year is a leap year, but of the full centuries every fourth only. -/
def isLeapYear (year : Int) : Bool := year % 4 == 0 && (year % 100 != 0 || year % 400 == 0)

/-- How many days a month has. -/
def daysInMonth (year : Int) : Nat → Nat
  | 2 => if isLeapYear year then 29 else 28
  | 4 => 30
  | 6 => 30
  | 9 => 30
  | 11 => 30
  | _ => 31

/-- Whether there is such a day. -/
def isValid (c : Civil) : Bool :=
  1 ≤ c.month && c.month ≤ 12 && 1 ≤ c.day && c.day ≤ daysInMonth c.year c.month

/-- The days from the first day of the year 1 to the first day of a year. -/
def daysBeforeYear (year : Int) : Int :=
  let y := year - 1
  365 * y + y / 4 - y / 100 + y / 400

/-- The days from the first day of a year to the first day of a month. -/
def daysBeforeMonth (year : Int) (month : Nat) : Nat :=
  (List.range (month - 1)).foldl (fun days i => days + daysInMonth year (i + 1)) 0

/-- The day number of 0001-01-01. -/
def firstDay : Int := -719162

/-- The day with that year, month and day. -/
def date (c : Civil) : Date :=
  ⟨firstDay + daysBeforeYear c.year + daysBeforeMonth c.year c.month + (c.day - 1)⟩

end Civil

namespace Date

/-- Year, month and day. Counting years from March puts the leap day last, and each block of 400
years has the same 146097 days. -/
def civil (d : Date) : Civil :=
  let z := d.day + 719468
  let block := z / 146097
  let inBlock := (z % 146097).toNat
  let year := (inBlock - inBlock / 1460 + inBlock / 36524 - inBlock / 146096) / 365
  let inYear := inBlock - (365 * year + year / 4 - year / 100)
  let m := (5 * inYear + 2) / 153
  let month := if m < 10 then m + 3 else m - 9
  ⟨year + 400 * block + (if month ≤ 2 then 1 else 0), month, inYear - (153 * m + 2) / 5 + 1⟩

/-- The earliest date that a time stamp may fall on, 1 January of the year -262143. -/
def earliest : Date := Civil.date ⟨-262143, 1, 1⟩

/-- The latest such date, 31 December of the year 262142. -/
def latest : Date := Civil.date ⟨262142, 12, 31⟩

/-- Whether a date lies in the range of time stamps. -/
def inRange (d : Date) : Bool := earliest ≤ d && d ≤ latest

/-- A number in at least `width` digits. -/
def padded (width n : Nat) : String :=
  let digits := Nat.toDigits 10 n
  String.ofList (List.replicate (width - digits.length) '0' ++ digits)

/-- A year in four digits, with a sign outside 0 to 9999. -/
def yearText (year : Int) : String :=
  let sign := if year < 0 then "-" else if 9999 < year then "+" else ""
  sign ++ padded 4 year.natAbs

/-- Year, month and day joined by hyphens. -/
def text (d : Date) : String :=
  let c := d.civil
  yearText c.year ++ "-" ++ padded 2 c.month ++ "-" ++ padded 2 c.day

end Date

end FlowRuns
