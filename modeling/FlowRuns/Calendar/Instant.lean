import FlowRuns.Calendar.Date

/-!
# Instants

A point in time, in universal time: whole seconds since 1970-01-01T00:00:00 and the nanoseconds
after. During a leap second the count of seconds stands still and the nanoseconds run on from
1 000 000 000, so instants are ordered by seconds first, then by nanoseconds.
-/

namespace FlowRuns

/-- A point in time. -/
structure Instant where
  /-- seconds since 1970-01-01T00:00:00, leap seconds not counted -/
  second : Int
  /-- nanoseconds after that second; 1 000 000 000 and more during a leap second -/
  nano : Nat
  deriving DecidableEq, Inhabited

namespace Instant

instance : LT Instant := ⟨fun a b => a.second < b.second ∨ a.second = b.second ∧ a.nano < b.nano⟩

instance : LE Instant := ⟨fun a b => a.second < b.second ∨ a.second = b.second ∧ a.nano ≤ b.nano⟩

instance (a b : Instant) : Decidable (a < b) := inferInstanceAs (Decidable (_ ∨ _))

instance (a b : Instant) : Decidable (a ≤ b) := inferInstanceAs (Decidable (_ ∨ _))

theorem lt_def {a b : Instant} :
    a < b ↔ a.second < b.second ∨ a.second = b.second ∧ a.nano < b.nano := Iff.rfl

theorem le_def {a b : Instant} :
    a ≤ b ↔ a.second < b.second ∨ a.second = b.second ∧ a.nano ≤ b.nano := Iff.rfl

theorem lt_irrefl (a : Instant) : ¬ a < a := by
  rw [lt_def]
  omega

theorem lt_trans {a b c : Instant} (hab : a < b) (hbc : b < c) : a < c := by
  rw [lt_def] at *
  omega

theorem lt_or_eq_or_gt (a b : Instant) : a < b ∨ a = b ∨ b < a := by
  obtain ⟨s, n⟩ := a
  obtain ⟨s', n'⟩ := b
  simp only [lt_def, mk.injEq]
  omega

/-- Seconds in a day. -/
def daySeconds : Int := 86400

/-- The calendar date in universal time. -/
def date (t : Instant) : Date := ⟨t.second / daySeconds⟩

/-- The instant a number of seconds later. -/
def plus (t : Instant) (seconds : Int) : Instant := ⟨t.second + seconds, t.nano⟩

/-- The digits after the seconds: none, three, six or nine, as few as show the fraction in full. -/
def fractionText (nano : Nat) : String :=
  if nano = 0 then ""
  else if nano % 1000000 = 0 then "." ++ Date.padded 3 (nano / 1000000)
  else if nano % 1000 = 0 then "." ++ Date.padded 6 (nano / 1000)
  else "." ++ Date.padded 9 nano

/-- The time stamp in universal time, `2024-01-01T00:00:00Z`; a leap second is written `:60`. -/
def text (t : Instant) : String :=
  let s := (t.second % daySeconds).toNat
  let leap := 1000000000 ≤ t.nano
  let fraction := if leap then t.nano - 1000000000 else t.nano
  t.date.text ++ "T" ++ Date.padded 2 (s / 3600) ++ ":" ++ Date.padded 2 (s / 60 % 60) ++ ":"
    ++ Date.padded 2 (s % 60 + if leap then 1 else 0) ++ fractionText fraction ++ "Z"

/-- The seconds from 1970-01-01 to 2000-01-01. -/
def millennium : Int := 946684800

/-- Microseconds since 1970, the time since 2000-01-01 cut towards zero to whole ones. -/
def microseconds (t : Instant) : Int :=
  ((t.second - millennium) * 1000000000 + t.nano).tdiv 1000 + millennium * 1000000

/-- The instant a number of microseconds after the beginning of 1970. -/
def ofMicroseconds (us : Int) : Instant := ⟨us / 1000000, (us % 1000000).toNat * 1000⟩

end Instant

end FlowRuns
