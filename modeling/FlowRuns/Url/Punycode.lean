/-!
# International labels in ASCII

The encoding by which a label of a domain with letters outside ASCII is written in ASCII: its
ASCII characters, a hyphen, and then, in digits of base 36 whose weights adapt, for each other
character in ascending order how far the pair of code point and position moves on.
-/

namespace FlowRuns.Url.Punycode

/-- The base of the digits. -/
def base : Nat := 36

/-- The threshold of a digit at a place, for a given bias. -/
def threshold (place bias : Nat) : Nat :=
  if place ≤ bias then 1 else if bias + 26 ≤ place then 26 else place - bias

/-- Moves the bias on after a delta was written: it settles where the next delta is likely to
need few digits. `rounds` bounds the halving. -/
def settle : Nat → Nat → Nat → Nat
  | 0, delta, k => k + 36 * delta / (delta + 38)
  | rounds + 1, delta, k =>
    if 455 < delta then settle rounds (delta / 35) (k + base) else k + 36 * delta / (delta + 38)

/-- The bias after a delta, `points` characters being in place. -/
def adapt (delta points : Nat) (first : Bool) : Nat :=
  let d := if first then delta / 700 else delta / 2
  settle 16 (d + d / points) 0

/-- A digit: `a` to `z`, then `0` to `9`. -/
def digit (n : Nat) : Char := Char.ofNat (if n < 26 then 97 + n else 22 + n)

/-- The value of a digit. -/
def digitValue? (c : Char) : Option Nat :=
  if c.isDigit then some (c.toNat - 22)
  else if 'a' ≤ c && c ≤ 'z' then some (c.toNat - 97)
  else if 'A' ≤ c && c ≤ 'Z' then some (c.toNat - 65)
  else none

/-- A delta in digits of adapting weight; `room` bounds their number. -/
def deltaDigits (bias : Nat) : Nat → Nat → Nat → List Char
  | 0, _, _ => []
  | room + 1, place, n =>
    let t := threshold place bias
    if n < t then [digit n]
    else
      digit (t + (n - t) % (base - t)) ::
        deltaDigits bias room (place + base) ((n - t) / (base - t))

/-- The state while a label is written. -/
structure Progress where
  /-- how far the next pair moves on -/
  delta : Nat
  /-- the bias -/
  bias : Nat
  /-- how many characters are in place -/
  points : Nat
  /-- how many of them are ASCII -/
  basic : Nat
  /-- the digits so far -/
  out : List Char

/-- Writes the places of one code point `n` in the label. -/
def writePoint (n : Nat) (p : Progress) : List Nat → Progress
  | [] => { p with delta := p.delta + 1 }
  | c :: rest =>
    if c < n then writePoint n { p with delta := p.delta + 1 } rest
    else if c = n then
      writePoint n
        { p with
          delta := 0
          bias := adapt p.delta (p.points + 1) (p.points = p.basic)
          points := p.points + 1
          out := p.out ++ deltaDigits p.bias 16 base p.delta } rest
    else writePoint n p rest

/-- Writes the code points `ns` one after another, the last one written being below `next`. -/
def writePoints (label : List Nat) : List Nat → Nat → Progress → Progress
  | [], _, p => p
  | n :: ns, next, p =>
    let p := { p with delta := p.delta + (n - next) * (p.points + 1) }
    writePoints label ns (n + 1) (writePoint n p label)

/-- Puts a number at its place among ascending ones, once. -/
def insertOnce (n : Nat) : List Nat → List Nat
  | [] => [n]
  | m :: ms => if n < m then n :: m :: ms else if n = m then m :: ms else m :: insertOnce n ms

/-- A label in ASCII, without the mark that goes before it. -/
def encode (label : List Char) : List Char :=
  let points := label.map Char.toNat
  let basic := label.filter fun c => c.toNat < 0x80
  let others := (points.filter (0x80 ≤ ·)).foldr insertOnce []
  let start := if basic.isEmpty then [] else basic ++ ['-']
  start ++ (writePoints points others 0x80 ⟨0, 72, basic.length, basic.length, []⟩).out

/-- Reads a delta: its value and the digits after it. -/
def readDelta (bias : Nat) : Nat → Nat → Nat → List Char → Option (Nat × List Char)
  | _, _, _, [] => none
  | place, weight, sum, c :: rest =>
    match digitValue? c with
    | none => none
    | some d =>
      let t := threshold place bias
      if d < t then some (sum + d * weight, rest)
      else readDelta bias (place + base) (weight * (base - t)) (sum + d * weight) rest

/-- Reads the characters outside ASCII into a label; `room` bounds their number. -/
def readPoints : Nat → Nat → Nat → Nat → Bool → List Nat → List Char → Option (List Nat)
  | _, _, _, _, _, label, [] => some label
  | 0, _, _, _, _, _, _ => none
  | room + 1, n, i, bias, first, label, s =>
    match readDelta bias base 1 0 s with
    | none => none
    | some (delta, rest) =>
      let j := i + delta
      let size := label.length + 1
      let n := n + j / size
      let position := j % size
      if 0x10FFFF < n || (0xD800 ≤ n && n ≤ 0xDFFF) then none
      else
        readPoints room n (position + 1) (adapt delta size first) false
          (label.take position ++ n :: label.drop position) rest

/-- The label that an ASCII form stands for. The last hyphen ends the ASCII characters, unless it
is the first character. -/
def decode? (s : List Char) : Option (List Char) :=
  let head := (s.reverse.dropWhile (· ≠ '-')).drop 1 |>.reverse
  let tail := if head.isEmpty then s else (s.reverse.takeWhile (· ≠ '-')).reverse
  if head.all (·.toNat < 0x80) then
    (readPoints (tail.length + 1) 0x80 0 72 true (head.map Char.toNat) tail).map (·.map Char.ofNat)
  else none

end FlowRuns.Url.Punycode
