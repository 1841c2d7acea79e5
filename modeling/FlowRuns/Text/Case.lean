import FlowRuns.Text.CaseTable

/-!
# Letter case

* `upperAscii` — upper case of the 26 letters `a` to `z`, all else kept.
* `lowercase` — lower case of all letters. The letter `İ` becomes two characters, and a capital
  sigma at the end of a word becomes the final form `ς`.
-/

namespace FlowRuns.Text

/-- Upper case, of the letters `a` to `z` only. -/
def upperAscii (s : String) : String := String.ofList (s.toList.map Char.toUpper)

/-- Lower case, of the letters `A` to `Z` only. -/
def lowerAscii (s : String) : String := String.ofList (s.toList.map Char.toLower)

/-- The lower-case form of one character, the sigma at the end of a word aside. -/
def lowerChar (c : Char) : List Char :=
  if c.toNat < 0x80 then [c.toLower]
  else if c.toNat = 0x130 then ['i', Char.ofNat 0x307]
  else [(shifted? lowerRuns c).getD c]

/-- Whether the first character that is not to be ignored has a case. -/
def casedNext (s : List Char) : Bool :=
  match s.dropWhile caseIgnorableRanges.contains with
  | c :: _ => casedRanges.contains c
  | [] => false

/-- The lower-case form of a text whose characters before `rest` are `before`, last one first. A
capital sigma is final when a letter comes before it and none after. -/
def lowerFrom (before : List Char) : List Char → List Char
  | [] => []
  | c :: rest =>
    let low := if c = 'Σ' then [if casedNext before && !casedNext rest then 'ς' else 'σ']
      else lowerChar c
    low ++ lowerFrom (c :: before) rest

/-- The lower-case form of a text. -/
def lowercase (s : String) : String := String.ofList (lowerFrom [] s.toList)

end FlowRuns.Text
