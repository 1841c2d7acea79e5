import FlowRuns.Text.Ranges

/-!
# Blank characters

White space in the sense of the Unicode property `White_Space`, the trimming of a text by it, and
what it means for a text to be blank.
-/

namespace FlowRuns.Text

/-- The 25 characters of the Unicode property `White_Space`. -/
def blankRanges : Ranges :=
  [(0x9, 0xD), (0x20, 0x20), (0x85, 0x85), (0xA0, 0xA0), (0x1680, 0x1680), (0x2000, 0x200A),
   (0x2028, 0x2029), (0x202F, 0x202F), (0x205F, 0x205F), (0x3000, 0x3000)]

/-- Whether a character is white space. -/
def isBlankChar (c : Char) : Bool := blankRanges.contains c

/-- Without the white space it begins with. -/
def trimStartChars (s : List Char) : List Char := s.dropWhile isBlankChar

/-- Without the white space it begins and ends with. -/
def trimChars (s : List Char) : List Char :=
  ((trimStartChars s).reverse.dropWhile isBlankChar).reverse

/-- A text without the white space it begins and ends with. -/
def trim (s : String) : String := String.ofList (trimChars s.toList)

/-- A text is blank when it holds nothing but white space. -/
def isBlank (s : String) : Bool := s.toList.all isBlankChar

/-- Dropping the blank beginning leaves nothing exactly of a blank text. -/
theorem trimStartChars_eq_nil_iff (s : List Char) :
    trimStartChars s = [] ↔ s.all isBlankChar = true := by
  unfold trimStartChars
  induction s with
  | nil => simp
  | cons c r ih => by_cases h : isBlankChar c = true <;> simp [h, ih]

/-- What is left after dropping the blank beginning is blank exactly when all was. -/
theorem all_trimStartChars (s : List Char) :
    (trimStartChars s).all isBlankChar = s.all isBlankChar := by
  unfold trimStartChars
  induction s with
  | nil => rfl
  | cons c r ih => by_cases h : isBlankChar c = true <;> simp [h, ih]

/-- A text is blank exactly when nothing is left of it after trimming. -/
theorem trimChars_eq_nil_iff (s : List Char) : trimChars s = [] ↔ s.all isBlankChar = true := by
  have h := trimStartChars_eq_nil_iff (trimStartChars s).reverse
  rw [List.all_reverse, all_trimStartChars] at h
  rw [trimChars, List.reverse_eq_nil_iff]
  exact h

end FlowRuns.Text
