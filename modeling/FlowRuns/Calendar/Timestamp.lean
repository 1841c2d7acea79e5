import FlowRuns.Calendar.Instant
import FlowRuns.Text.Blank

/-!
# Time stamps

A time stamp is a local date and time of day with an offset from universal time; the instant it
denotes is the local reading minus the offset.

* `Timestamp.instant?` — that instant, if the fields name an existing day and time.
* `Timestamp.ofStrict?` — the form of internet time stamps, `2024-01-01T00:00:00.5+05:30`: fixed
  widths, a `T`, a `t` or one space in the middle, a `Z` or an offset at the end.
* `Timestamp.ofLenient?` — a relaxed form: blanks between the parts, fields of fewer digits, signed
  years of any length, `UTC` for the offset.
-/

namespace FlowRuns

/-- A local date and time with its offset. -/
structure Timestamp where
  /-- the local date -/
  date : Civil
  /-- the hour -/
  hour : Nat
  /-- the minute -/
  minute : Nat
  /-- the second; 60 is a leap second -/
  second : Nat
  /-- nanoseconds after the second -/
  nano : Nat
  /-- seconds by which local time is ahead of universal time -/
  offset : Int
  deriving DecidableEq, Inhabited

namespace Timestamp

/-- Whether the fields name an existing day and time of day, and an offset of less than a day. -/
def isValid (t : Timestamp) : Bool :=
  t.date.isValid && t.hour ≤ 23 && t.minute ≤ 59 && t.second ≤ 60 && t.nano < 1000000000
    && t.offset.natAbs < 86400 && t.date.date.inRange

/-- The local reading, as if it were universal time. A leap second is the second before it,
with its nanoseconds beyond the full second. -/
def localReading (t : Timestamp) : Instant :=
  let leap := t.second = 60
  ⟨t.date.date.day * Instant.daySeconds
      + (t.hour * 3600 + t.minute * 60 + (if leap then 59 else t.second) : Nat),
    t.nano + if leap then 1000000000 else 0⟩

/-- **The instant denoted**: the local reading minus the offset, if it exists and its date is in
the range of time stamps. -/
def instant? (t : Timestamp) : Option Instant :=
  let i := t.localReading.plus (-t.offset)
  if t.isValid && i.date.inRange then some i else none

/-! ## Fields -/

/-- The value of a digit. -/
def digitValue (c : Char) : Nat := c.toNat - '0'.toNat

/-- The number written by a list of digits. -/
def numberOf (digits : List Char) : Nat := digits.foldl (fun n c => 10 * n + digitValue c) 0

/-- A number of at least `least` and at most `most` digits, as many as there are. -/
def number? (least most : Nat) (s : List Char) : Option (Nat × List Char) :=
  let digits := (s.take most).takeWhile Char.isDigit
  if least ≤ digits.length then some (numberOf digits, s.drop digits.length) else none

/-- The text after one given character. -/
def after? (c : Char) : List Char → Option (List Char)
  | d :: rest => if d = c then some rest else none
  | [] => none

/-- A fraction of a second after its point: nanoseconds from the first nine digits, further digits
dropped. -/
def fraction? (s : List Char) : Option (Nat × List Char) :=
  match s with
  | '.' :: rest =>
    (number? 1 9 rest).map fun (_, more) =>
      let written := rest.take (rest.length - more.length)
      (numberOf (written ++ List.replicate (9 - written.length) '0'), more.dropWhile Char.isDigit)
  | _ => some (0, s)

/-- A sign: `true` for minus. The minus sign proper counts beside the hyphen. -/
def sign? : List Char → Option (Bool × List Char)
  | '+' :: rest => some (false, rest)
  | '-' :: rest => some (true, rest)
  | '−' :: rest => some (true, rest)
  | _ => none

/-- An offset: `Z`, or a sign, two digits of hours, what `separator?` takes away, and two digits
of minutes. -/
def offset? (separator? : List Char → Option (List Char)) (s : List Char) :
    Option (Int × List Char) :=
  match s with
  | 'Z' :: rest => some (0, rest)
  | 'z' :: rest => some (0, rest)
  | _ => do
    let (negative, s) ← sign? s
    let (hours, s) ← number? 2 2 s
    let s ← separator? s
    let (minutes, s) ← number? 2 2 s
    if minutes ≤ 59 then
      let seconds : Int := (hours * 3600 + minutes * 60 : Nat)
      some (if negative then -seconds else seconds, s)
    else none

/-- The mark between date and time of day. -/
def middle? : List Char → Option (List Char)
  | 'T' :: rest => some rest
  | 't' :: rest => some rest
  | ' ' :: rest => some rest
  | _ => none

/-! ## The strict form -/

/-- Reads the form of internet time stamps. -/
def ofStrict? (s : List Char) : Option Timestamp := do
  let (year, s) ← number? 4 4 s
  let s ← after? '-' s
  let (month, s) ← number? 2 2 s
  let s ← after? '-' s
  let (day, s) ← number? 2 2 s
  let s ← middle? s
  let (hour, s) ← number? 2 2 s
  let s ← after? ':' s
  let (minute, s) ← number? 2 2 s
  let s ← after? ':' s
  let (second, s) ← number? 2 2 s
  let (nano, s) ← fraction? s
  let (offset, s) ← offset? (after? ':') s
  if s.isEmpty then some ⟨⟨year, month, day⟩, hour, minute, second, nano, offset⟩ else none

/-! ## The relaxed form -/

/-- A number of one or two digits after blanks. -/
def field? (s : List Char) : Option (Nat × List Char) := number? 1 2 (Text.trimStartChars s)

/-- A mark after blanks. -/
def mark? (c : Char) (s : List Char) : Option (List Char) := after? c (Text.trimStartChars s)

/-- A year after blanks: up to four digits, or a sign and any number of digits. -/
def year? (s : List Char) : Option (Int × List Char) :=
  match Text.trimStartChars s with
  | '-' :: rest => (number? 1 rest.length rest).map fun (n, more) => (-(n : Int), more)
  | '+' :: rest => (number? 1 rest.length rest).map fun (n, more) => ((n : Int), more)
  | rest => (number? 1 4 rest).map fun (n, more) => ((n : Int), more)

/-- Colons and blanks may stand between the hours and the minutes of an offset, or nothing. -/
def anySeparator? (s : List Char) : Option (List Char) :=
  some (s.dropWhile fun c => c = ':' || Text.isBlankChar c)

/-- `UTC` in letters of any case, or an offset. -/
def zone? (s : List Char) : Option (Int × List Char) :=
  if (s.take 3).map Char.toUpper = ['U', 'T', 'C'] then some (0, s.drop 3)
  else offset? anySeparator? s

/-- Reads the relaxed form. -/
def ofLenient? (s : List Char) : Option Timestamp := do
  let (year, s) ← year? s
  let s ← mark? '-' s
  let (month, s) ← field? s
  let s ← mark? '-' s
  let (day, s) ← field? s
  let s ← middle? s
  let (hour, s) ← field? s
  let s ← mark? ':' s
  let (minute, s) ← field? s
  let s ← mark? ':' s
  let (second, s) ← field? s
  let (nano, s) ← fraction? s
  let (offset, s) ← zone? (Text.trimStartChars s)
  if (Text.trimStartChars s).isEmpty then
    some ⟨⟨year, month, day⟩, hour, minute, second, nano, offset⟩
  else none

end Timestamp

namespace Instant

/-- The instant of a time stamp in the strict form. -/
def ofStrict? (s : String) : Option Instant := Timestamp.ofStrict? s.toList >>= Timestamp.instant?

/-- The instant of a time stamp in the relaxed form. -/
def ofLenient? (s : String) : Option Instant :=
  Timestamp.ofLenient? s.toList >>= Timestamp.instant?

end Instant

end FlowRuns
