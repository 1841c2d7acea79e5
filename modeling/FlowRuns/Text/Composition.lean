import FlowRuns.Text.CompositionTable

/-!
# Composed text

A letter with marks can be written as one character or as several. The *composed form* of a text
is the same for all spellings of it: every composite is taken apart, marks of different classes
are put in order, and then whatever can be put together is.

* `partsOf?`, `compositeOf?` — a composite and its two parts.
* `combiningClass` — the class of a mark; marks of one class keep their order.
* `takeApart`, `putTogether` — the two halves of the way to the composed form.
* `composed` — the composed form.

Syllables of the Korean script are composites too; their code points are computed.
-/

namespace FlowRuns.Text

/-! ## Korean syllables -/

/-- The first syllable. -/
def firstSyllable : Nat := 0xAC00

/-- The first consonant that begins a syllable. -/
def firstLead : Nat := 0x1100

/-- The first vowel. -/
def firstVowel : Nat := 0x1161

/-- The place before the first consonant that ends a syllable. -/
def beforeTails : Nat := 0x11A7

/-- How many consonants begin syllables. -/
def leadCount : Nat := 19

/-- How many vowels there are. -/
def vowelCount : Nat := 21

/-- How many ends a syllable can have, none included. -/
def tailCount : Nat := 28

/-- Whether a code point is that of a syllable. -/
def isSyllable (n : Nat) : Bool :=
  firstSyllable ≤ n && n < firstSyllable + leadCount * vowelCount * tailCount

/-- The parts of a syllable: what comes before its last consonant and that consonant, or its
first consonant and its vowel. -/
def syllableParts? (c : Char) : Option (Char × Char) :=
  if isSyllable c.toNat then
    let i := c.toNat - firstSyllable
    if i % tailCount = 0 then
      some (Char.ofNat (firstLead + i / tailCount / vowelCount),
        Char.ofNat (firstVowel + i / tailCount % vowelCount))
    else some (Char.ofNat (c.toNat - i % tailCount), Char.ofNat (beforeTails + i % tailCount))
  else none

/-- The syllable that two parts make. -/
def syllableOf? (a b : Char) : Option Char :=
  let lead := a.toNat - firstLead
  let vowel := b.toNat - firstVowel
  let tail := b.toNat - beforeTails
  if firstLead ≤ a.toNat && lead < leadCount && firstVowel ≤ b.toNat && vowel < vowelCount then
    some (Char.ofNat (firstSyllable + (lead * vowelCount + vowel) * tailCount))
  else if isSyllable a.toNat && (a.toNat - firstSyllable) % tailCount = 0
      && beforeTails < b.toNat && tail < tailCount then
    some (Char.ofNat (a.toNat + tail))
  else none

/-! ## Composites -/

/-- The pairs that a text lists one after another. -/
def pairsOf : List Char → List (Char × Char)
  | a :: b :: rest => (a, b) :: pairsOf rest
  | _ => []

/-- The composite of two parts. -/
def compositeOf? (a b : Char) : Option Char :=
  (syllableOf? a b).or <|
    (composites.filter (·.1 = b.toNat)).findSome? fun row => (pairsOf row.2.toList).lookup a

/-- The two parts of a composite. -/
def partsOf? (c : Char) : Option (Char × Char) :=
  (syllableParts? c).or <|
    composites.findSome? fun row =>
      ((pairsOf row.2.toList).find? (·.2 = c)).map fun pair => (pair.1, Char.ofNat row.1)

/-- The class of a mark, zero for everything that is no mark. -/
def combiningClass (c : Char) : Nat :=
  ((combiningClasses.find? (·.2.contains c)).map (·.1)).getD 0

/-! ## The composed form -/

/-- The characters that a composite is made of at last. Of two parts only the first can be a
composite again, `depth` times at most. -/
def fullParts : Nat → Char → List Char
  | 0, c => [c]
  | depth + 1, c =>
    match partsOf? c with
    | some (a, b) => fullParts depth a ++ [b]
    | none => [c]

/-- How often a part is a composite again at most. -/
def mostParts : Nat := 4

/-- Puts a character after those of `before`, last one first. A mark goes before marks of greater
classes. -/
def putInOrder (before : List Char) (c : Char) : List Char :=
  match before with
  | d :: rest =>
    if combiningClass c ≠ 0 && combiningClass c < combiningClass d then d :: putInOrder rest c
    else c :: before
  | [] => [c]

/-- A text with all composites taken apart and all marks in order. -/
def takeApart (s : List Char) : List Char :=
  ((s.flatMap (fullParts mostParts)).foldl putInOrder []).reverse

/-- Puts together what follows a character `a` with it. `marks` are those that stayed by
themselves, last one first; they are in the way of what has no greater class. -/
def putTogether (a : Char) (marks : List Char) : List Char → List Char
  | [] => a :: marks.reverse
  | c :: rest =>
    let isNext := match marks with
      | [] => true
      | m :: _ => combiningClass m < combiningClass c
    match if isNext then compositeOf? a c else none with
    | some b => putTogether b marks rest
    | none =>
      if combiningClass c = 0 then a :: marks.reverse ++ putTogether c [] rest
      else putTogether a (c :: marks) rest

/-- The composed form of a text. ASCII has no marks, so a text of ASCII is in that form. -/
def composed (s : List Char) : List Char :=
  if s.all (·.toNat < 0x80) then s
  else
    match takeApart s with
    | [] => []
    | c :: rest => putTogether c [] rest

end FlowRuns.Text
