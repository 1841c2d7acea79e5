/-!
# Text and bytes

The UTF-8 form of a text, and two readings of a byte sequence as UTF-8. The strict one refuses a
malformed sequence; the lossy one puts `U+FFFD` in the place of each longest part that begins a
character and cannot be continued to one.
-/

namespace FlowRuns.Text

/-! ## Writing -/

/-- The byte that continues a character with the six bits `n % 64`. -/
def continuation (n : Nat) : UInt8 := UInt8.ofNat (0x80 + n % 64)

/-- The one to four bytes of a character. -/
def bytesOfChar (c : Char) : List UInt8 :=
  let n := c.toNat
  if n < 0x80 then [UInt8.ofNat n]
  else if n < 0x800 then [UInt8.ofNat (0xC0 + n / 64), continuation n]
  else if n < 0x10000 then
    [UInt8.ofNat (0xE0 + n / 4096), continuation (n / 64), continuation n]
  else
    [UInt8.ofNat (0xF0 + n / 262144), continuation (n / 4096), continuation (n / 64),
      continuation n]

/-- The bytes of a text. -/
def bytes (s : List Char) : List UInt8 := s.flatMap bytesOfChar

/-! ## Reading -/

/-- What the first byte of a character announces: how many bytes follow, the bits it contributes,
and between which bounds the second byte must lie. Overlong forms, surrogates and code points
beyond `U+10FFFF` are excluded by those bounds. -/
structure Lead where
  /-- how many bytes follow -/
  following : Nat
  /-- the bits of the first byte -/
  bits : Nat
  /-- the least second byte -/
  low : Nat
  /-- the greatest second byte -/
  high : Nat

/-- The announcement of a first byte, if it can begin a character of several bytes. -/
def Lead.ofByte? (b : Nat) : Option Lead :=
  if 0xC2 ≤ b && b ≤ 0xDF then some ⟨1, b - 0xC0, 0x80, 0xBF⟩
  else if b = 0xE0 then some ⟨2, 0, 0xA0, 0xBF⟩
  else if b = 0xED then some ⟨2, 0xD, 0x80, 0x9F⟩
  else if 0xE1 ≤ b && b ≤ 0xEF then some ⟨2, b - 0xE0, 0x80, 0xBF⟩
  else if b = 0xF0 then some ⟨3, 0, 0x90, 0xBF⟩
  else if b = 0xF4 then some ⟨3, 4, 0x80, 0x8F⟩
  else if 0xF1 ≤ b && b ≤ 0xF3 then some ⟨3, b - 0xF0, 0x80, 0xBF⟩
  else none

/-- A character that has begun: the bits so far, how many bytes are to come, and the bounds of the
next one. -/
structure Pending where
  /-- the bits so far -/
  bits : Nat
  /-- how many bytes are to come -/
  left : Nat
  /-- the least next byte -/
  low : Nat
  /-- the greatest next byte -/
  high : Nat

/-- The character that stands for bytes that are no text. -/
def replacement : Char := Char.ofNat 0xFFFD

/-- One byte at the start of a character. `none` in a character's place marks a malformed byte. -/
def startByte (b : Nat) : List (Option Char) × Option Pending :=
  if b < 0x80 then ([some (Char.ofNat b)], none)
  else
    match Lead.ofByte? b with
    | some l => ([], some ⟨l.bits, l.following, l.low, l.high⟩)
    | none => ([none], none)

/-- One byte after the pending part of a character. A byte that cannot continue it ends it as
malformed and begins anew. -/
def nextByte (b : Nat) : Option Pending → List (Option Char) × Option Pending
  | none => startByte b
  | some p =>
    if p.low ≤ b && b ≤ p.high then
      let bits := p.bits * 64 + (b - 0x80)
      if p.left = 1 then ([some (Char.ofNat bits)], none)
      else ([], some ⟨bits, p.left - 1, 0x80, 0xBF⟩)
    else
      let (cs, q) := startByte b
      (none :: cs, q)

/-- The characters of a byte sequence, `none` for each malformed part. -/
def charsOfBytes (pending : Option Pending) : List UInt8 → List (Option Char)
  | [] => if pending.isSome then [none] else []
  | b :: rest =>
    let (cs, q) := nextByte b.toNat pending
    cs ++ charsOfBytes q rest

/-- The text of a byte sequence, `U+FFFD` for each malformed part. -/
def ofBytesLossy (bytes : List UInt8) : String :=
  String.ofList ((charsOfBytes none bytes).map (·.getD replacement))

/-- The characters of a byte sequence, if no part of it is malformed. -/
def charsOfBytes? (bytes : List UInt8) : Option (List Char) :=
  (charsOfBytes none bytes).mapM id

end FlowRuns.Text
