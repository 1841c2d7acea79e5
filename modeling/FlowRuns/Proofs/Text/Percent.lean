import FlowRuns.Text.Percent

/-!
# Percent encoding and its reading

What is lost, and what is not, when a text is percent-encoded for a place of a URL and read back.

* `percentDecode_percentEncode` — encoding a text first changes nothing about how it is read, as long
  as the place leaves percent signs and hexadecimal digits alone.
* `percentDecode_eq_bytes`, `length_percentDecode_lt` — a text without escapes is read as itself, and
  one with an escape as fewer bytes than it has.
* `percentEncode_eq_self`, `mem_percentEncode` — an encoded text holds only characters that may stand
  in its place, and those stay as they are.
-/

namespace FlowRuns.Text

/-! ## Characters -/

/-- What holds of 128 code points holds of all ASCII characters. -/
theorem forall_ascii (p : Char → Prop) (h : ∀ n < 128, p (Char.ofNat n)) {c : Char}
    (hc : c.toNat < 128) : p c := by
  have hp := h c.toNat hc
  rwa [Char.ofNat_toNat] at hp

theorem bytesOfChar_of_ascii {c : Char} (h : c.toNat < 0x80) :
    bytesOfChar c = [UInt8.ofNat c.toNat] := by
  unfold bytesOfChar
  simp [h]

theorem bytesOfChar_ne_nil (c : Char) : bytesOfChar c ≠ [] := by
  unfold bytesOfChar
  dsimp only
  split
  · simp
  · split
    · simp
    · split <;> simp

@[simp] theorem bytes_nil : bytes [] = [] := rfl

@[simp] theorem bytes_cons (c : Char) (s : List Char) : bytes (c :: s) = bytesOfChar c ++ bytes s := rfl

@[simp] theorem bytes_append (s t : List Char) : bytes (s ++ t) = bytes s ++ bytes t :=
  List.flatMap_append

/-- A hexadecimal digit. -/
def isHexDigit (c : Char) : Bool := (hexValue? c).isSome

theorem isHexDigit_ascii {c : Char} (h : isHexDigit c = true) : c.toNat < 0x80 := by
  unfold isHexDigit hexValue? at h
  simp only [Bool.and_eq_true, decide_eq_true_eq, Char.le_def, UInt32.le_iff_toNat_le] at h
  simp only [Char.toNat]
  have hdigits : '9'.val.toNat = 57 ∧ 'F'.val.toNat = 70 ∧ 'f'.val.toNat = 102 := by decide
  split at h
  · omega
  · split at h
    · omega
    · split at h
      · omega
      · cases h

theorem hexValue_hexDigitUpper : ∀ n < 16, hexValue? (hexDigitUpper n) = some n := by decide

/-! ## Sets -/

/-- The sets that leave percent signs and hexadecimal digits alone. -/
structure PercentSet.SparesEscapes (set : PercentSet) : Prop where
  /-- percent signs stay -/
  percent : set '%' = false
  /-- so do digits -/
  digit : ∀ c, isHexDigit c = true → set c = false

/-- Whether a set leaves digits alone shows in ASCII. -/
theorem PercentSet.SparesEscapes.of_ascii {set : PercentSet} (hpercent : set '%' = false)
    (hdigit : ∀ n < 128, isHexDigit (Char.ofNat n) = true → set (Char.ofNat n) = false) :
    set.SparesEscapes where
  percent := hpercent
  digit _ hc := forall_ascii (fun c => isHexDigit c = true → set c = false) hdigit
    (isHexDigit_ascii hc) hc

theorem PercentSet.path_sparesEscapes : PercentSet.path.SparesEscapes :=
  .of_ascii (by decide) (by decide)

theorem PercentSet.userInfo_sparesEscapes : PercentSet.userInfo.SparesEscapes :=
  .of_ascii (by decide) (by decide)

section Encode

variable {set : PercentSet} {c : Char} {s : List Char}

@[simp] theorem percentEncode_nil : percentEncode set [] = [] := rfl

@[simp] theorem percentEncode_cons (c : Char) (s : List Char) :
    percentEncode set (c :: s) = percentChar set c ++ percentEncode set s := rfl

theorem percentChar_of_spared (hc : c.toNat < 0x80) (h : set c = false) :
    percentChar set c = [c] := by
  unfold percentChar
  simp [hc, h]

theorem percentChar_of_encoded (h : ¬ (c.toNat < 0x80 ∧ set c = false)) :
    percentChar set c = (bytesOfChar c).flatMap percentByte := by
  unfold percentChar
  rw [if_neg (by simpa using h)]

/-- What may stand in its place stays as it is. -/
theorem percentEncode_eq_self (h : ∀ c ∈ s, c.toNat < 0x80 ∧ set c = false) :
    percentEncode set s = s := by
  induction s with
  | nil => rfl
  | cons c s ih =>
    obtain ⟨hc, hset⟩ := h c List.mem_cons_self
    rw [percentEncode_cons, percentChar_of_spared hc hset,
      ih fun d hd => h d (List.mem_cons_of_mem c hd)]
    rfl

theorem mem_percentByte {b : UInt8} (h : c ∈ percentByte b) : c = '%' ∨ isHexDigit c = true := by
  have hhigh : b.toNat / 16 < 16 := by have := b.toNat_lt; omega
  have hlow : b.toNat % 16 < 16 := Nat.mod_lt _ (by decide)
  simp only [percentByte, List.mem_cons, List.not_mem_nil, or_false] at h
  obtain rfl | rfl | rfl := h
  · exact .inl rfl
  · exact .inr (by rw [isHexDigit, hexValue_hexDigitUpper _ hhigh]; rfl)
  · exact .inr (by rw [isHexDigit, hexValue_hexDigitUpper _ hlow]; rfl)

/-- An encoded text holds characters of the text, percent signs and digits. -/
theorem mem_or_of_mem_percentEncode (h : c ∈ percentEncode set s) :
    c ∈ s ∨ c = '%' ∨ isHexDigit c = true := by
  obtain ⟨d, hd, hc⟩ := List.mem_flatMap.1 h
  by_cases hspared : d.toNat < 0x80 ∧ set d = false
  · rw [percentChar_of_spared hspared.1 hspared.2, List.mem_singleton] at hc
    exact .inl (hc ▸ hd)
  · rw [percentChar_of_encoded hspared] at hc
    obtain ⟨b, _, hb⟩ := List.mem_flatMap.1 hc
    exact .inr (mem_percentByte hb)

/-- An encoded text holds only characters that may stand in its place. -/
theorem mem_percentEncode (hset : set.SparesEscapes) (h : c ∈ percentEncode set s) :
    c.toNat < 0x80 ∧ set c = false := by
  obtain ⟨d, hd, hc⟩ := List.mem_flatMap.1 h
  by_cases hspared : d.toNat < 0x80 ∧ set d = false
  · rw [percentChar_of_spared hspared.1 hspared.2, List.mem_singleton] at hc
    exact hc ▸ hspared
  · rw [percentChar_of_encoded hspared] at hc
    obtain ⟨b, _, hb⟩ := List.mem_flatMap.1 hc
    obtain rfl | hdigit := mem_percentByte hb
    · exact ⟨by decide, hset.percent⟩
    · exact ⟨isHexDigit_ascii hdigit, hset.digit c hdigit⟩

end Encode

/-! ## Reading -/

/-- Two hexadecimal digits stand at the start. -/
def beginsWithByte : List Char → Bool
  | d :: e :: _ => isHexDigit d && isHexDigit e
  | _ => false

/-- A percent sign stands before two hexadecimal digits. -/
def hasEscape : List Char → Bool
  | [] => false
  | c :: s => (c = '%' && beginsWithByte s) || hasEscape s

/-- A character that begins no escape is read as itself. -/
theorem percentDecode_cons {c : Char} {s : List Char} (h : c = '%' → beginsWithByte s = false) :
    percentDecode (c :: s) = bytesOfChar c ++ percentDecode s := by
  match s with
  | [] => simp [percentDecode]
  | [d] => simp [percentDecode]
  | d :: e :: rest =>
    rw [percentDecode]
    split
    · rename_i hc
      have hno := h hc
      cases hd : hexValue? d with
      | none => rfl
      | some high =>
        cases he : hexValue? e with
        | none => rfl
        | some low => simp [beginsWithByte, isHexDigit, hd, he] at hno
    · rfl

theorem beginsWithByte_eq_false {d e : Char} {s : List Char}
    (h : ∀ high low, hexValue? d = some high → hexValue? e = some low → False) :
    beginsWithByte (d :: e :: s) = false := by
  cases hd : hexValue? d with
  | none => simp [beginsWithByte, isHexDigit, hd]
  | some high =>
    cases he : hexValue? e with
    | none => simp [beginsWithByte, isHexDigit, he]
    | some low => exact (h high low hd he).elim

/-- An escape is read as its byte. -/
theorem percentDecode_escape {d e : Char} {high low : Nat} (hd : hexValue? d = some high)
    (he : hexValue? e = some low) (s : List Char) :
    percentDecode ('%' :: d :: e :: s) = UInt8.ofNat (16 * high + low) :: percentDecode s := by
  rw [percentDecode, if_pos rfl, hd, he]

theorem percentDecode_percentByte (b : UInt8) (s : List Char) :
    percentDecode (percentByte b ++ s) = b :: percentDecode s := by
  have hhigh : b.toNat / 16 < 16 := by have := b.toNat_lt; omega
  have hlow : b.toNat % 16 < 16 := Nat.mod_lt _ (by decide)
  have hsum : 16 * (b.toNat / 16) + b.toNat % 16 = b.toNat := Nat.div_add_mod _ _
  change percentDecode ('%' :: hexDigitUpper (b.toNat / 16) :: hexDigitUpper (b.toNat % 16) :: s) = _
  rw [percentDecode_escape (hexValue_hexDigitUpper _ hhigh) (hexValue_hexDigitUpper _ hlow), hsum,
    UInt8.ofNat_toNat]

theorem percentDecode_percentBytes (bs : List UInt8) (s : List Char) :
    percentDecode (bs.flatMap percentByte ++ s) = bs ++ percentDecode s := by
  induction bs with
  | nil => rfl
  | cons b bs ih => rw [List.flatMap_cons, List.append_assoc, percentDecode_percentByte, ih]; rfl

section Decode

variable {set : PercentSet}

theorem percentChar_of_digit (hset : set.SparesEscapes) {c : Char} (h : isHexDigit c = true) :
    percentChar set c = [c] :=
  percentChar_of_spared (isHexDigit_ascii h) (hset.digit c h)

/-- A character that is no digit is not encoded with a digit at the start. -/
theorem beginsWithByte_percentChar {c : Char} (h : isHexDigit c = false) (d : Char) (s : List Char) :
    beginsWithByte (percentChar set c ++ s) = false ∧
      beginsWithByte (d :: (percentChar set c ++ s)) = false := by
  have hhead : ∃ a t, percentChar set c ++ s = a :: t ∧ isHexDigit a = false := by
    by_cases hspared : c.toNat < 0x80 ∧ set c = false
    · exact ⟨c, s, by rw [percentChar_of_spared hspared.1 hspared.2]; rfl, h⟩
    · obtain ⟨b, bs, hbs⟩ := List.exists_cons_of_ne_nil (bytesOfChar_ne_nil c)
      rw [percentChar_of_encoded hspared, hbs]
      exact ⟨'%', _, rfl, by decide⟩
  obtain ⟨a, t, hat, ha⟩ := hhead
  rw [hat]
  refine ⟨?_, by simp [beginsWithByte, ha]⟩
  cases t with
  | nil => rfl
  | cons e t => simp [beginsWithByte, ha]

theorem beginsWithByte_percentEncode (hset : set.SparesEscapes) (s : List Char) :
    beginsWithByte (percentEncode set s) = beginsWithByte s := by
  match s with
  | [] => rfl
  | [d] =>
    cases hd : isHexDigit d with
    | true => rw [percentEncode_cons, percentChar_of_digit hset hd]; rfl
    | false => exact (beginsWithByte_percentChar hd d []).1
  | d :: e :: rest =>
    cases hd : isHexDigit d with
    | false =>
      rw [percentEncode_cons, (beginsWithByte_percentChar hd d _).1]
      simp [beginsWithByte, hd]
    | true =>
      rw [percentEncode_cons, percentChar_of_digit hset hd, List.singleton_append,
        percentEncode_cons]
      cases he : isHexDigit e with
      | false =>
        rw [(beginsWithByte_percentChar he d _).2]
        simp [beginsWithByte, he]
      | true =>
        rw [percentChar_of_digit hset he]
        rfl

/-- An encoded character that begins no escape is read as itself. -/
theorem percentDecode_percentChar {c : Char} {s : List Char}
    (h : c = '%' → beginsWithByte s = false) :
    percentDecode (percentChar set c ++ s) = bytesOfChar c ++ percentDecode s := by
  by_cases hspared : c.toNat < 0x80 ∧ set c = false
  · rw [percentChar_of_spared hspared.1 hspared.2, List.singleton_append, percentDecode_cons h]
  · rw [percentChar_of_encoded hspared, percentDecode_percentBytes]

/-- **Encoding does not change the reading.** -/
theorem percentDecode_percentEncode (hset : set.SparesEscapes) (s : List Char) :
    percentDecode (percentEncode set s) = percentDecode s := by
  -- a character that begins no escape in `s` begins none in the encoded text either
  have hstep : ∀ c t, (c = '%' → beginsWithByte t = false) →
      percentDecode (percentEncode set (c :: t)) =
        bytesOfChar c ++ percentDecode (percentEncode set t) := fun c t h => by
    rw [percentEncode_cons, percentDecode_percentChar fun hc => ?_]
    rw [beginsWithByte_percentEncode hset, h hc]
  fun_induction percentDecode s with
  | case1 => rfl
  | case2 c => rw [hstep c [] fun _ => rfl]; simp [percentDecode]
  | case3 c d =>
    rw [hstep c [d] fun _ => rfl, hstep d [] fun _ => rfl]
    simp [percentDecode]
  | case4 d e rest high low he hd ih =>
    have hhex : isHexDigit d = true ∧ isHexDigit e = true := by simp [isHexDigit, hd, he]
    have hencoded : percentEncode set ('%' :: d :: e :: rest) =
        '%' :: d :: e :: percentEncode set rest := by
      rw [percentEncode_cons, percentEncode_cons, percentEncode_cons,
        percentChar_of_spared (by decide) hset.percent, percentChar_of_digit hset hhex.1,
        percentChar_of_digit hset hhex.2]
      rfl
    rw [hencoded, percentDecode_escape hd he, ih]
  | case5 d e rest hno ih =>
    rw [hstep '%' _ fun _ => beginsWithByte_eq_false hno, ih]
  | case6 c d e rest hc ih => rw [hstep c _ fun h => absurd h hc, ih]

end Decode

/-! ## Texts without escapes -/

/-- There is no escape without a percent sign. -/
theorem hasEscape_eq_false {s : List Char} (h : '%' ∉ s) : hasEscape s = false := by
  induction s with
  | nil => rfl
  | cons c s ih =>
    obtain ⟨hc, hs⟩ := not_or.1 (mt List.mem_cons.2 h)
    rw [hasEscape, ih hs, decide_eq_false (Ne.symm hc)]
    rfl

/-- A text without escapes is read as itself. -/
theorem percentDecode_eq_bytes {s : List Char} (h : hasEscape s = false) :
    percentDecode s = bytes s := by
  induction s with
  | nil => rfl
  | cons c s ih =>
    simp only [hasEscape, Bool.or_eq_false_iff, Bool.and_eq_false_iff, decide_eq_false_iff_not] at h
    obtain ⟨hhead, htail⟩ := h
    have hbegin : c = '%' → beginsWithByte s = false := fun hc => hhead.resolve_left (· hc)
    rw [percentDecode_cons hbegin, ih htail, bytes_cons]

/-- A text is read as at most as many bytes as it has, and as fewer if it holds an escape. -/
theorem length_percentDecode (s : List Char) :
    (percentDecode s).length ≤ (bytes s).length ∧
      (hasEscape s = true → (percentDecode s).length < (bytes s).length) := by
  fun_induction percentDecode s with
  | case1 => simp [hasEscape]
  | case2 c => simp [hasEscape, beginsWithByte]
  | case3 c d => simp [hasEscape, beginsWithByte]
  | case4 d e rest high low he hd ih =>
    have hd' : 0 < (bytesOfChar d).length := List.length_pos_iff.2 (bytesOfChar_ne_nil d)
    have hpercent : (bytesOfChar '%').length = 1 := rfl
    have hlt : (UInt8.ofNat (16 * high + low) :: percentDecode rest).length <
        (bytes ('%' :: d :: e :: rest)).length := by
      have := ih.1
      simp only [bytes_cons, List.length_append, List.length_cons]
      omega
    exact ⟨Nat.le_of_lt hlt, fun _ => hlt⟩
  | case5 d e rest hno ih =>
    have hescape : hasEscape ('%' :: d :: e :: rest) = hasEscape (d :: e :: rest) := by
      rw [hasEscape, beginsWithByte_eq_false hno]
      simp
    rw [hescape, bytes_cons, List.length_append, List.length_append]
    exact ⟨by omega, fun h => by have := ih.2 h; omega⟩
  | case6 c d e rest hc ih =>
    have hescape : hasEscape (c :: d :: e :: rest) = hasEscape (d :: e :: rest) := by
      rw [hasEscape]
      simp [hc]
    rw [hescape, bytes_cons, List.length_append, List.length_append]
    exact ⟨by omega, fun h => by have := ih.2 h; omega⟩

end FlowRuns.Text
