import FlowRuns.Url.DomainTable
import FlowRuns.Url.LabelTable
import FlowRuns.Url.Punycode
import FlowRuns.Text.Composition
import FlowRuns.Text.Form

/-!
# Domains

A domain is a sequence of labels with points between them. Letters of all scripts may occur; each
domain has one spelling in lower-case ASCII, in which a label with other letters is encoded.

* `standsFor?` — what a character of a domain stands for: letters are lower case, variants of a
  character are that character, and some characters are left out.
* `Label`, `label?` — a label, as it reads and in ASCII.
* `joinersFit`, `isOneWay` — what a label with invisible joiners, and one in a domain with letters
  that are written from right to left, have to look like.
* `domainToAscii?` — a domain in lower-case ASCII.
-/

namespace FlowRuns.Url

open Text.Form (parts)

/-! ## Characters -/

/-- Whether a character may not stand in a domain. -/
def forbiddenInDomain (c : Char) : Bool :=
  c.toNat ≤ 0x20 || c.toNat = 0x7f || "%#/:<>?@[\\]^|".toList.contains c

/-- Whether a character is ASCII. -/
def isAscii (c : Char) : Bool := c.toNat < 0x80

/-- The character that another one stands for, if they are listed as a pair. -/
def exchanged? (c : Char) : Option Char :=
  exchangedRows.findSome? fun row =>
    if row.1 ≤ c.toNat then row.2.toList[c.toNat - row.1]? else none

/-- The text that a character stands for, if it is not one character. -/
def expanded? (c : Char) : Option (List Char) :=
  (expandedRows.findSome? fun row =>
    if row.1 ≤ c.toNat then row.2[c.toNat - row.1]? else none).map String.toList

/-- What a character of a domain stands for; nothing if no domain holds it. -/
def standsFor? (c : Char) : Option (List Char) :=
  if isAscii c then some [c.toLower]
  else if disallowedRanges.contains c then none
  else if ignoredRanges.contains c then some []
  else some ((expanded? c).getD [((Text.shifted? shiftedRuns c).or (exchanged? c)).getD c])

/-- Whether a character stands for itself. -/
def isKept (c : Char) : Bool := isAscii c || standsFor? c = some [c]

/-! ## Joiners -/

/-- The invisible character that keeps letters from joining. -/
def nonJoiner : Char := Char.ofNat 0x200C

/-- The invisible character that makes letters join. -/
def joiner : Char := Char.ofNat 0x200D

/-- The combining class of the mark that takes a consonant its vowel. -/
def vowelKillerClass : Nat := 9

/-- Whether the character before, the first of `before`, takes a consonant its vowel. -/
def followsVowelKiller (before : List Char) : Bool :=
  match before with
  | c :: _ => Text.combiningClass c = vowelKillerClass
  | [] => false

/-- Whether letters join through a character. -/
def isTransparent (c : Char) : Bool := markRanges.contains c || spacingTransparentRanges.contains c

/-- Whether a letter joins with the one after it. -/
def joinsNext (c : Char) : Bool := joiningBothRanges.contains c || joiningNextRanges.contains c

/-- Whether a letter joins with the one before it. -/
def joinsPrevious (c : Char) : Bool :=
  joiningBothRanges.contains c || joiningPreviousRanges.contains c

/-- Whether the next character through which letters do not join has a property. -/
def nextLetter (property : Char → Bool) (s : List Char) : Bool :=
  match s.dropWhile isTransparent with
  | c :: _ => property c
  | [] => false

/-- Whether a joiner may stand between what is before it, last one first, and what is after it. -/
def joinerFits (before : List Char) (c : Char) (after : List Char) : Bool :=
  if c = joiner then followsVowelKiller before
  else if c = nonJoiner then
    followsVowelKiller before || (nextLetter joinsNext before && nextLetter joinsPrevious after)
  else true

/-- Whether every joiner has its place. The characters before are `before`, last one first. -/
def joinersFit (before : List Char) : List Char → Bool
  | [] => true
  | c :: rest => joinerFits before c rest && joinersFit (c :: before) rest

/-! ## Directions -/

/-- The direction in which a character is written. -/
inductive Direction where
  /-- a letter that is written from left to right -/
  | left
  /-- a letter that is written from right to left -/
  | right
  /-- a digit that stands among Arabic letters -/
  | arabicNumber
  /-- a digit that stands among letters of either direction -/
  | europeanNumber
  /-- another character without a direction of its own -/
  | neutral
  /-- a mark, which goes with its letter -/
  | mark
  deriving DecidableEq

/-- The direction of a character. -/
def direction (c : Char) : Direction :=
  if rightToLeftRanges.contains c then .right
  else if arabicNumberRanges.contains c then .arabicNumber
  else if europeanNumberRanges.contains c then .europeanNumber
  else if neutralRanges.contains c then .neutral
  else if markRanges.contains c then .mark
  else .left

/-- Whether a character is written from right to left. -/
def isRightward (c : Char) : Bool :=
  !isAscii c && (rightToLeftRanges.contains c || arabicNumberRanges.contains c)

/-- Whether a label can be told from its neighbours in a domain with letters that are written from
right to left: it begins with a letter, holds letters of that letter's direction only, ends with a
letter or a digit, and has digits of one kind. -/
def isOneWay (label : List Char) : Bool :=
  let ds := label.map direction
  let last := (ds.reverse.dropWhile (· = .mark)).head?
  match ds with
  | [] => true
  | .left :: _ =>
    !ds.contains .right && !ds.contains .arabicNumber
      && (last = some .left || last = some .europeanNumber)
  | .right :: _ =>
    !ds.contains .left && !(ds.contains .arabicNumber && ds.contains .europeanNumber)
      && last ≠ some .neutral
  | _ => false

/-! ## Labels -/

/-- A label of a domain. -/
structure Label where
  /-- how it reads -/
  text : List Char
  /-- its spelling in ASCII -/
  ascii : List Char

/-- The mark before an encoded label. -/
def labelMark : List Char := ['x', 'n', '-', '-']

/-- The most characters of a label that is to be encoded. -/
def longestLabel : Nat := 1000

/-- The most characters of a label that is encoded, after its mark. -/
def longestEncoded : Nat := 2000

/-- Whether a label begins with no mark and has its joiners in place. -/
def isWellFormed (label : List Char) : Bool :=
  !(label.head?.any fun c => markRanges.contains c || spacingMarkRanges.contains c)
    && joinersFit [] label

/-- Whether a text is what an encoded label can read as: it needs the encoding, and is spelled as
all labels are. -/
def isEncodable (label : List Char) : Bool :=
  !label.all isAscii && label.all isKept && Text.composed label = label
    && !labelMark.isPrefixOf label && isWellFormed label

/-- The label that an encoded label stands for. -/
def encodedLabel? (label : List Char) : Option Label := do
  let code := label.drop labelMark.length
  if !label.all isAscii || code.getLast? = some '-' || longestEncoded < code.length then none
  let text ← Punycode.decode? code
  if isEncodable text then some ⟨text, label⟩ else none

/-- The label that a text in its composed form writes. -/
def label? (label : List Char) : Option Label :=
  if labelMark.isPrefixOf label then encodedLabel? label
  else if label.all isAscii then some ⟨label, label⟩
  else if isWellFormed label && label.length ≤ longestLabel then
    some ⟨label, labelMark ++ Punycode.encode label⟩
  else none

/-- The labels of a domain. -/
def labels? (s : List Char) : Option (List Label) := do
  let spelled ← s.mapM standsFor?
  let labels ← (parts '.' (Text.composed spelled.flatten)).mapM label?
  if labels.any (·.text.any isRightward) && !labels.all (isOneWay ·.text) then none
  else some labels

/-- A domain in lower-case ASCII. -/
def domainToAscii? (s : List Char) : Option (List Char) := do
  let labels ← labels? s
  let name := ".".toList.intercalate (labels.map (·.ascii))
  if name.any forbiddenInDomain then none else some name

end FlowRuns.Url
