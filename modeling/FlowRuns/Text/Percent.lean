import FlowRuns.Text.Utf8

/-!
# Percent encoding

A byte that may not stand in a place of a URL is written as a percent sign and two hexadecimal
digits. Which bytes those are depends on the place; bytes that are not ASCII never may.

* `PercentSet` — the characters to encode in one place.
* `percentEncode`, `percentDecode` — writing and reading.
-/

namespace FlowRuns.Text

/-- Which characters are encoded, those outside ASCII aside, which always are. -/
abbrev PercentSet := Char → Bool

namespace PercentSet

/-- Control characters. -/
def control : PercentSet := fun c => c.toNat < 0x20 || c.toNat = 0x7f

/-- One more group of characters. -/
def plus (set : PercentSet) (more : String) : PercentSet := fun c => set c || more.toList.contains c

/-- In a fragment. -/
def fragment : PercentSet := control.plus " \"<>`"

/-- In a query. -/
def query : PercentSet := control.plus " \"#<>"

/-- In a query of a special scheme. -/
def specialQuery : PercentSet := query.plus "'"

/-- In a path. -/
def path : PercentSet := fragment.plus "#?\x7b\x7d"

/-- In a user name or a password. -/
def userInfo : PercentSet := path.plus "/:;=@[\\]^|"

end PercentSet

/-- A hexadecimal digit, upper case. -/
def hexDigitUpper (n : Nat) : Char := Char.ofNat (if n < 10 then 48 + n else 55 + n)

/-- A byte as a percent sign and two digits. -/
def percentByte (b : UInt8) : List Char :=
  ['%', hexDigitUpper (b.toNat / 16), hexDigitUpper (b.toNat % 16)]

/-- One character in a place of a URL. -/
def percentChar (set : PercentSet) (c : Char) : List Char :=
  if c.toNat < 0x80 && !set c then [c] else (bytesOfChar c).flatMap percentByte

/-- A text in a place of a URL. -/
def percentEncode (set : PercentSet) (s : List Char) : List Char := s.flatMap (percentChar set)

/-- The value of a hexadecimal digit. -/
def hexValue? (c : Char) : Option Nat :=
  if '0' ≤ c && c ≤ '9' then some (c.toNat - 48)
  else if 'A' ≤ c && c ≤ 'F' then some (c.toNat - 55)
  else if 'a' ≤ c && c ≤ 'f' then some (c.toNat - 87)
  else none

/-- The bytes that an encoded text stands for; a percent sign without two digits stands for
itself. -/
def percentDecode : List Char → List UInt8
  | [] => []
  | [c] => bytesOfChar c
  | [c, d] => bytesOfChar c ++ bytesOfChar d
  | c :: d :: e :: rest =>
    if c = '%' then
      match hexValue? d, hexValue? e with
      | some high, some low => UInt8.ofNat (16 * high + low) :: percentDecode rest
      | _, _ => bytesOfChar c ++ percentDecode (d :: e :: rest)
    else bytesOfChar c ++ percentDecode (d :: e :: rest)

end FlowRuns.Text
