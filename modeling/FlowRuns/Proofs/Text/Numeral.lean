import FlowRuns.Text.Case
import FlowRuns.Text.Numeral

/-!
# The characters of numbers

A number is spelt with letters, digits, signs and a point, and so are the words for what is not finite. A text
with any other character is no number.

* `Text.isSpelling` — these characters.
* `Text.isSpelling_of_int64Of?`, `Text.isSpelling_of_binary64Of?` — **all of a number** is spelt with them.
* `Text.isSpelling_of_lowercase` — so is a text, as far as it is ASCII, if its lower-case form is.
-/

namespace FlowRuns.Text

/-- The characters that numbers and words are spelt with. -/
def isSpelling (c : Char) : Bool := c.isAlphanum || c = '+' || c = '-' || c = '.'

variable {c : Char} {s : List Char}

theorem isSpelling_of_isDigit (h : c.isDigit = true) : isSpelling c = true := by
  simp [isSpelling, Char.isAlphanum, h]

/-- A character is spelt with letters if it is so in lower case. -/
theorem isSpelling_of_toLower (h : isSpelling c.toLower = true) : isSpelling c = true := by
  by_cases hupper : c.isUpper = true
  · have hletter : c.isAlphanum = true := by
      change (c.isUpper || c.isLower || c.isDigit) = true
      rw [hupper, Bool.true_or, Bool.true_or]
    rw [isSpelling, hletter, Bool.true_or, Bool.true_or, Bool.true_or]
  · -- only capitals have another lower-case form
    have hsame : c.toLower = c := dif_neg fun hcapital => hupper (decide_eq_true hcapital)
    rwa [hsame] at h

theorem isDigit_of_natOfDigits? {n : Nat} (h : natOfDigits? s = some n) (hc : c ∈ s) :
    c.isDigit = true := by
  rw [natOfDigits?] at h
  split at h
  next => cases h
  next hdigits =>
    have hall : s.all Char.isDigit = true := by
      simp only [Bool.or_eq_true, not_or, Bool.not_eq_true', Bool.not_eq_false] at hdigits
      exact hdigits.2
    exact List.all_eq_true.1 hall c hc

/-- A character is a sign or stands after it. -/
theorem mem_of_cutSign (hc : c ∈ s) : c = '+' ∨ c = '-' ∨ c ∈ (cutSign s).2 := by
  unfold cutSign
  split
  · exact (List.mem_cons.1 hc).imp id .inr
  · exact .inr ((List.mem_cons.1 hc).imp id id)
  · exact .inr (.inr hc)

/-- What is spelt after a sign is spelt with it. -/
theorem isSpelling_of_cutSign (hc : c ∈ s) (h : c ∈ (cutSign s).2 → isSpelling c = true) :
    isSpelling c = true := by
  obtain rfl | rfl | hc := mem_of_cutSign hc
  · rfl
  · rfl
  · exact h hc

/-- **All of an integer.** -/
theorem isSpelling_of_int64Of? {t : String} {i : Int} (h : int64Of? t = some i) (hc : c ∈ t.toList) :
    isSpelling c = true := by
  refine isSpelling_of_cutSign hc fun hc => ?_
  obtain ⟨n, hn, -⟩ := Option.bind_eq_some_iff.1 h
  exact isSpelling_of_isDigit (isDigit_of_natOfDigits? hn hc)

theorem isSpelling_of_exponentOf? {e : Int} (h : exponentOf? s = some e) (hc : c ∈ s) :
    isSpelling c = true := by
  cases s with
  | nil => cases hc
  | cons d rest =>
    rw [exponentOf?] at h
    split at h
    next hd =>
      obtain rfl | hc := List.mem_cons.1 hc
      · simp only [Bool.or_eq_true, decide_eq_true_eq] at hd
        obtain rfl | rfl := hd <;> rfl
      · obtain ⟨_, hi, -⟩ := Option.map_eq_some_iff.1 h
        obtain ⟨n, hn, -⟩ := Option.bind_eq_some_iff.1 hi
        exact isSpelling_of_cutSign hc fun hc => isSpelling_of_isDigit (isDigit_of_natOfDigits? hn hc)
    next => cases h

/-- All of a decimal: its digits, its point and its exponent. -/
theorem isSpelling_of_decimalOf? {negative : Bool} {x : Binary64} (h : decimalOf? negative s = some x)
    (hc : c ∈ s) : isSpelling c = true := by
  have hrest : s.drop (s.takeWhile Char.isDigit).length = s.dropWhile Char.isDigit := by
    have hcut : (s.takeWhile Char.isDigit ++ s.dropWhile Char.isDigit).drop
        (s.takeWhile Char.isDigit).length = s.dropWhile Char.isDigit := List.drop_left
    rwa [List.takeWhile_append_dropWhile] at hcut
  rw [decimalOf?, hrest] at h
  have hdigit {t : List Char} (hc : c ∈ t.takeWhile Char.isDigit) : isSpelling c = true :=
    isSpelling_of_isDigit (List.all_eq_true.1 (List.all_takeWhile) c hc)
  rw [← List.takeWhile_append_dropWhile (p := Char.isDigit) (l := s), List.mem_append] at hc
  obtain hc | hc := hc
  · exact hdigit hc
  · simp only [Option.bind_eq_bind, Option.bind_eq_some_iff] at h
    obtain ⟨_, -, e, he, -⟩ := h
    split at he
    next r hr =>
      rw [hr] at hc
      obtain rfl | hc := List.mem_cons.1 hc
      · rfl
      · rw [← List.takeWhile_append_dropWhile (p := Char.isDigit) (l := r), List.mem_append] at hc
        exact hc.elim hdigit (isSpelling_of_exponentOf? he)
    next => exact isSpelling_of_exponentOf? he hc

/-- **All of a floating-point number.** -/
theorem isSpelling_of_binary64Of? {t : String} {x : Binary64} (h : binary64Of? t = some x)
    (hc : c ∈ t.toList) : isSpelling c = true := by
  refine isSpelling_of_cutSign hc fun hc => ?_
  have hword {word : List Char} (hlower : (cutSign t.toList).2.map Char.toLower = word)
      (hall : word.all isSpelling = true) : isSpelling c = true :=
    isSpelling_of_toLower (List.all_eq_true.1 hall _ (hlower ▸ List.mem_map_of_mem hc))
  rw [binary64Of?] at h
  dsimp only at h
  split at h
  next hinfinity =>
    simp only [infinityWords, List.contains_eq_mem, List.mem_cons, List.not_mem_nil, or_false,
      decide_eq_true_eq] at hinfinity
    exact hinfinity.elim (hword · (by decide)) (hword · (by decide))
  next =>
    split at h
    next hnan => exact hword hnan (by decide)
    next => exact isSpelling_of_decimalOf? h hc

/-! ## Words -/

/-- An ASCII character stands in the lower-case form of a text in its own lower-case form. -/
theorem toLower_mem_lowerFrom (hc : c ∈ s) (hascii : c.toNat < 0x80) (before : List Char) :
    c.toLower ∈ lowerFrom before s := by
  induction s generalizing before with
  | nil => cases hc
  | cons d rest ih =>
    rw [lowerFrom]
    obtain rfl | hc := List.mem_cons.1 hc
    · have hsigma : c ≠ 'Σ' := by
        rintro rfl
        exact absurd hascii (by decide)
      rw [if_neg hsigma, lowerChar, if_pos hascii]
      exact List.mem_append_left _ List.mem_cons_self
    · exact List.mem_append_right _ (ih hc _)

/-- **A text** is spelt with letters, as far as it is ASCII, if its lower-case form is. -/
theorem isSpelling_of_lowercase {t : String} (h : (lowercase t).toList.all isSpelling = true)
    (hc : c ∈ t.toList) (hascii : c.toNat < 0x80) : isSpelling c = true := by
  rw [lowercase, String.toList_ofList] at h
  exact isSpelling_of_toLower (List.all_eq_true.1 h _ (toLower_mem_lowerFrom hc hascii []))

end FlowRuns.Text
