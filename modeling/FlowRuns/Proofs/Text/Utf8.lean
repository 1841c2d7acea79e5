import FlowRuns.Proofs.Text.Percent

/-!
# UTF-8 read again

The bytes of a text are read as the text. A first byte announces how many are to come and between which
bounds the next one lies, and the bytes that a character is written with keep to that: overlong forms,
surrogates and what is beyond the last code point are shut out by the bounds, and no character needs them.

* `charsOfBytes_lead`, `charsOfBytes_more`, `charsOfBytes_last` — one byte.
* `charsOfBytes_bytesOfChar` — one character, whatever follows it.
* `charsOfBytes_bytes`, `ofBytesLossy_bytes` — **a text.**
-/

namespace FlowRuns.Text

variable {b : UInt8} {p : Pending}

/-! ## One byte -/

/-- A byte that begins a character of several bytes. -/
theorem charsOfBytes_lead {n following bits low high : Nat} (hn : n < 0x100)
    (h : Lead.ofByte? n = some ⟨following, bits, low, high⟩) (rest : List UInt8) :
    charsOfBytes none (UInt8.ofNat n :: rest) = charsOfBytes (some ⟨bits, following, low, high⟩) rest := by
  have hascii : ¬ n < 0x80 := fun hlt => by
    unfold Lead.ofByte? at h
    grind
  have hbyte : (UInt8.ofNat n).toNat = n := by
    rw [UInt8.toNat_ofNat']
    exact Nat.mod_eq_of_lt hn
  rw [charsOfBytes, nextByte, startByte, hbyte, if_neg hascii, h]
  rfl

/-- A byte that goes on with a character, and is not its last. -/
theorem charsOfBytes_more (hb : p.low ≤ b.toNat ∧ b.toNat ≤ p.high) (hleft : p.left ≠ 1)
    (rest : List UInt8) : charsOfBytes (some p) (b :: rest) =
      charsOfBytes (some ⟨p.bits * 64 + (b.toNat - 0x80), p.left - 1, 0x80, 0xBF⟩) rest := by
  rw [charsOfBytes, nextByte, if_pos (by simpa using hb)]
  dsimp only
  rw [if_neg hleft]
  rfl

/-- The last byte of a character. -/
theorem charsOfBytes_last (hb : p.low ≤ b.toNat ∧ b.toNat ≤ p.high) (hleft : p.left = 1)
    (rest : List UInt8) : charsOfBytes (some p) (b :: rest) =
      some (Char.ofNat (p.bits * 64 + (b.toNat - 0x80))) :: charsOfBytes none rest := by
  rw [charsOfBytes, nextByte, if_pos (by simpa using hb)]
  dsimp only
  rw [if_pos hleft]
  rfl

theorem toNat_continuation (n : Nat) : (continuation n).toNat = 0x80 + n % 64 := by
  rw [continuation, UInt8.toNat_ofNat']
  omega

/-- A byte that continues a character carries six bits. -/
theorem charsOfBytes_continuation {bits left low high : Nat} (n : Nat) (hleft : left ≠ 1)
    (hlow : low ≤ 0x80 + n % 64) (hhigh : 0x80 + n % 64 ≤ high) (rest : List UInt8) :
    charsOfBytes (some ⟨bits, left, low, high⟩) (continuation n :: rest) =
      charsOfBytes (some ⟨bits * 64 + n % 64, left - 1, 0x80, 0xBF⟩) rest := by
  rw [charsOfBytes_more (by rw [toNat_continuation]; exact ⟨hlow, hhigh⟩) hleft, toNat_continuation,
    Nat.add_sub_cancel_left]

/-- So does the last one. -/
theorem charsOfBytes_continuation_last {bits low high : Nat} (n : Nat) (hlow : low ≤ 0x80 + n % 64)
    (hhigh : 0x80 + n % 64 ≤ high) (rest : List UInt8) :
    charsOfBytes (some ⟨bits, 1, low, high⟩) (continuation n :: rest) =
      some (Char.ofNat (bits * 64 + n % 64)) :: charsOfBytes none rest := by
  rw [charsOfBytes_last (by rw [toNat_continuation]; exact ⟨hlow, hhigh⟩) rfl, toNat_continuation,
    Nat.add_sub_cancel_left]

/-! ## First bytes -/

/-- The first of two bytes. -/
theorem lead_two {n : Nat} (hleast : 0x80 ≤ n) (hmost : n < 0x800) :
    Lead.ofByte? (0xC0 + n / 64) = some ⟨1, n / 64, 0x80, 0xBF⟩ := by
  unfold Lead.ofByte?
  rw [if_pos (by simp; omega), Nat.add_sub_cancel_left]

/-- The first of three bytes. After the least one the second is high enough for no overlong form, and after
the one of the surrogates it is low enough for none of these. -/
theorem lead_three {n : Nat} (hleast : 0x800 ≤ n) (hmost : n < 0x10000)
    (hvalid : n < 0xD800 ∨ 0xDFFF < n) :
    ∃ low high, Lead.ofByte? (0xE0 + n / 4096) = some ⟨2, n / 4096, low, high⟩ ∧
      low ≤ 0x80 + n / 64 % 64 ∧ 0x80 + n / 64 % 64 ≤ high := by
  by_cases hleastByte : n / 4096 = 0
  · rw [hleastByte]
    exact ⟨0xA0, 0xBF, rfl, by omega, by omega⟩
  · by_cases hsurrogates : n / 4096 = 13
    · rw [hsurrogates]
      exact ⟨0x80, 0x9F, rfl, by omega, by omega⟩
    · refine ⟨0x80, 0xBF, ?_, by omega, by omega⟩
      unfold Lead.ofByte?
      rw [if_neg (by simp; omega), if_neg (by omega), if_neg (by omega), if_pos (by simp; omega),
        Nat.add_sub_cancel_left]

/-- The first of four bytes. After the least one the second is high enough for no overlong form, and after the
greatest one low enough for a code point. -/
theorem lead_four {n : Nat} (hleast : 0x10000 ≤ n) (hmost : n < 0x110000) :
    ∃ low high, Lead.ofByte? (0xF0 + n / 262144) = some ⟨3, n / 262144, low, high⟩ ∧
      low ≤ 0x80 + n / 4096 % 64 ∧ 0x80 + n / 4096 % 64 ≤ high := by
  by_cases hleastByte : n / 262144 = 0
  · rw [hleastByte]
    exact ⟨0x90, 0xBF, rfl, by omega, by omega⟩
  · by_cases hgreatestByte : n / 262144 = 4
    · rw [hgreatestByte]
      exact ⟨0x80, 0x8F, rfl, by omega, by omega⟩
    · refine ⟨0x80, 0xBF, ?_, by omega, by omega⟩
      unfold Lead.ofByte?
      rw [if_neg (by simp; omega), if_neg (by omega), if_neg (by omega), if_neg (by simp; omega),
        if_neg (by omega), if_neg (by omega), if_pos (by simp; omega), Nat.add_sub_cancel_left]

/-! ## One character -/

/-- No character is a surrogate, or beyond the last code point. -/
theorem toNat_valid (c : Char) : c.toNat < 0xD800 ∨ 0xDFFF < c.toNat ∧ c.toNat < 0x110000 := c.valid

/-- **A character**, by how many bytes it is written with. -/
theorem charsOfBytes_bytesOfChar (c : Char) (rest : List UInt8) :
    charsOfBytes none (bytesOfChar c ++ rest) = some c :: charsOfBytes none rest := by
  have hvalid := toNat_valid c
  have hc : Char.ofNat c.toNat = c := Char.ofNat_toNat c
  unfold bytesOfChar
  generalize c.toNat = n at hvalid hc ⊢
  dsimp only
  split
  next hone =>
    have hbyte : (UInt8.ofNat n).toNat = n := by
      rw [UInt8.toNat_ofNat']
      omega
    rw [List.singleton_append, charsOfBytes, nextByte, startByte, hbyte, if_pos hone, hc]
    rfl
  next hone =>
    split
    next htwo =>
      rw [List.cons_append, charsOfBytes_lead (by omega) (lead_two (by omega) htwo),
        List.singleton_append, charsOfBytes_continuation_last n (by omega) (by omega),
        Nat.div_add_mod', hc]
    next htwo =>
      split
      next hthree =>
        obtain ⟨low, high, hlead, hlow, hhigh⟩ := lead_three (by omega) hthree (by omega)
        have hbits : (n / 4096 * 64 + n / 64 % 64) * 64 + n % 64 = n := by omega
        rw [List.cons_append, charsOfBytes_lead (by omega) hlead, List.cons_append,
          charsOfBytes_continuation (n / 64) (by decide) hlow hhigh, List.singleton_append,
          charsOfBytes_continuation_last n (by omega) (by omega), hbits, hc]
      next hthree =>
        obtain ⟨low, high, hlead, hlow, hhigh⟩ := lead_four (n := n) (by omega) (by omega)
        have hbits : ((n / 262144 * 64 + n / 4096 % 64) * 64 + n / 64 % 64) * 64 + n % 64 = n := by omega
        rw [List.cons_append, charsOfBytes_lead (by omega) hlead, List.cons_append,
          charsOfBytes_continuation (n / 4096) (by decide) hlow hhigh, List.cons_append,
          charsOfBytes_continuation (n / 64) (by decide) (by omega) (by omega), List.singleton_append,
          charsOfBytes_continuation_last n (by omega) (by omega), hbits, hc]

/-! ## Texts -/

/-- **A text** is read from its bytes. -/
theorem charsOfBytes_bytes (s : List Char) : charsOfBytes none (bytes s) = s.map some := by
  induction s with
  | nil => rfl
  | cons c s ih => rw [bytes_cons, charsOfBytes_bytesOfChar, ih, List.map_cons]

theorem charsOfBytes?_bytes (s : List Char) : charsOfBytes? (bytes s) = some s := by
  rw [charsOfBytes?, charsOfBytes_bytes]
  induction s with
  | nil => rfl
  | cons c s ih => simp [List.mapM_cons, ih]

/-- Nothing of it has to be replaced. -/
theorem ofBytesLossy_bytes (s : String) : ofBytesLossy (bytes s.toList) = s := by
  rw [ofBytesLossy, charsOfBytes_bytes, List.map_map]
  have hsame : s.toList.map ((·.getD replacement) ∘ some) = s.toList := List.map_id _
  rw [hsame, String.ofList_toList]

end FlowRuns.Text
