import FlowRuns.Proofs.Text.Utf8
import FlowRuns.Text.Form

/-!
# Form encoding read again

Pairs that are written as a form are read as these pairs, in their order, whatever their names and values
hold: the marks between pairs, and between a name and its value, are themselves encoded wherever they stand
in a text, and so are plus signs, before a plus sign is written for a space.

* `Form.mem_encode` — the characters of an encoded text.
* `Form.decode_encode` — **a text** is read as itself.
* `Form.parts_eq_splitOn`, `Form.join_parts`, `Form.cut_append` — the marks.
* `Form.decodePairs_encodePairs` — **any pairs** are read as themselves.
-/

namespace FlowRuns.Text.Form

variable {c d mark : Char} {s : List Char}

/-! ## Characters -/

/-- Two characters are different if only one of them stands for itself. -/
theorem ne_of_isPlain (hc : isPlain c = true) (hd : isPlain d = false) : c ≠ d := by
  rintro rfl
  rw [hc] at hd
  cases hd

theorem isPlain_of_isHexDigit (h : isHexDigit c = true) : isPlain c = true :=
  forall_ascii (fun c => isHexDigit c = true → isPlain c = true) (by decide) (isHexDigit_ascii h) h

/-- **An encoded text** holds characters that stand for themselves, plus signs and percent signs. -/
theorem mem_encode {t : String} (h : c ∈ encode t) : isPlain c = true ∨ c = '+' ∨ c = '%' := by
  obtain ⟨d, -, hc⟩ := List.mem_flatMap.1 h
  unfold encodeChar at hc
  split at hc
  next => exact .inr (.inl (List.mem_singleton.1 hc))
  next =>
    split at hc
    next hplain => exact .inl (List.mem_singleton.1 hc ▸ hplain)
    next =>
      obtain ⟨b, -, hb⟩ := List.mem_flatMap.1 hc
      exact (mem_percentByte hb).elim (fun h => .inr (.inr h)) fun h => .inl (isPlain_of_isHexDigit h)

/-- No other character is in an encoded text. -/
theorem not_mem_encode {t : String} (hplain : isPlain c = false) (hplus : c ≠ '+') (hpercent : c ≠ '%') :
    c ∉ encode t := fun h =>
  (mem_encode h).elim (fun h => ne_of_isPlain h hplain rfl) fun h => h.elim hplus hpercent

/-! ## Texts -/

/-- A plus sign stands for a space. -/
abbrev spaced (s : List Char) : List Char := s.map fun c => if c = '+' then ' ' else c

theorem spaced_append (s t : List Char) : spaced (s ++ t) = spaced s ++ spaced t := List.map_append

theorem spaced_eq_self (h : ∀ c ∈ s, c ≠ '+') : spaced s = s :=
  (List.map_congr_left fun c hc => if_neg (h c hc)).trans (List.map_id s)

theorem percentDecode_encodeChar (c : Char) (s : List Char) :
    percentDecode (spaced (encodeChar c ++ s)) = bytesOfChar c ++ percentDecode (spaced s) := by
  rw [spaced_append]
  unfold encodeChar
  split
  next hspace =>
    subst hspace
    exact percentDecode_cons fun h => absurd h (by decide)
  next =>
    split
    next hplain =>
      rw [spaced_eq_self fun d hd => List.mem_singleton.1 hd ▸ ne_of_isPlain hplain (by decide)]
      exact percentDecode_cons fun h => absurd h (ne_of_isPlain hplain (by decide))
    next =>
      rw [spaced_eq_self fun d hd => ?_, percentDecode_percentBytes]
      obtain ⟨b, -, hb⟩ := List.mem_flatMap.1 hd
      obtain rfl | hdigit := mem_percentByte hb
      · decide
      · exact ne_of_isPlain (isPlain_of_isHexDigit hdigit) (by decide)

/-- **A text** is read as itself. -/
theorem decode_encode (t : String) : decode (encode t) = t := by
  have hbytes (s : List Char) : percentDecode (spaced (s.flatMap encodeChar)) = bytes s := by
    induction s with
    | nil => rfl
    | cons c s ih => rw [List.flatMap_cons, percentDecode_encodeChar, ih, bytes_cons]
  change ofBytesLossy (percentDecode (spaced (t.toList.flatMap encodeChar))) = t
  rw [hbytes, ofBytesLossy_bytes]

/-! ## Marks -/

/-- The parts of a text are what the marks separate. -/
theorem parts_eq_splitOn (mark : Char) (s : List Char) : parts mark s = s.splitOn mark := by
  induction s with
  | nil => rw [parts, List.splitOn_nil]
  | cons c s ih =>
    rw [List.splitOn_cons_eq_if_modifyHead, ← ih, parts]
    by_cases hc : c = mark
    · rw [if_pos hc, if_pos (beq_iff_eq.2 hc)]
    · rw [if_neg hc, if_neg (by simpa using hc)]
      cases hs : parts mark s with
      | nil => exact absurd (ih.symm.trans hs) (List.splitOn_ne_nil mark s)
      | cons p ps => rfl

/-- With the marks between them they are the text. -/
theorem join_parts (mark : Char) (s : List Char) : [mark].intercalate (parts mark s) = s := by
  rw [parts_eq_splitOn, List.intercalate_splitOn]

/-- A text is cut at the first mark. -/
theorem cut_append (h : mark ∉ s) (t : List Char) : cut mark (s ++ mark :: t) = (s, t) := by
  have hbefore : ∀ c ∈ s, decide (c ≠ mark) = true := fun c hc => by
    have hne : c ≠ mark := fun heq => h (heq ▸ hc)
    exact decide_eq_true hne
  rw [cut, List.takeWhile_append_of_pos hbefore, List.dropWhile_append_of_pos hbefore,
    List.takeWhile_cons_of_neg (by simp), List.dropWhile_cons_of_neg (by simp), List.append_nil]
  rfl

/-- A text without the mark is not cut. -/
theorem cut_of_not_mem (h : mark ∉ s) : cut mark s = (s, []) := by
  have hall : ∀ c ∈ s, decide (c ≠ mark) = true := fun c hc => by
    have hne : c ≠ mark := fun heq => h (heq ▸ hc)
    exact decide_eq_true hne
  rw [← List.append_nil s, cut, List.takeWhile_append_of_pos hall, List.dropWhile_append_of_pos hall]
  rfl

/-! ## Pairs -/

/-- A pair is read as itself. -/
theorem decodePair_encodePair (p : String × String) : decodePair (encodePair p) = p := by
  have hcut : cut '=' (encodePair p) = (encode p.1, encode p.2) :=
    cut_append (not_mem_encode (by decide) (by decide) (by decide)) (encode p.2)
  rw [decodePair, hcut]
  dsimp only
  rw [decode_encode, decode_encode]

/-- No mark between pairs stands in one. -/
theorem ampersand_not_mem_encodePair (p : String × String) : '&' ∉ encodePair p := by
  have htext (t : String) : '&' ∉ encode t := not_mem_encode (by decide) (by decide) (by decide)
  intro h
  obtain h | h := List.mem_append.1 h
  · exact htext p.1 h
  · exact htext p.2 ((List.mem_cons.1 h).resolve_left (by decide))

/-- The parts of what pairs are written as. -/
theorem parts_encodePairs (p : String × String) (ps : List (String × String)) :
    parts '&' (encodePairs (p :: ps)) = (p :: ps).map encodePair := by
  induction ps generalizing p with
  | nil => exact (parts_eq_splitOn _ _).trans (List.splitOn_eq_singleton (ampersand_not_mem_encodePair p))
  | cons p' ps ih =>
    change parts '&' (encodePair p ++ '&' :: encodePairs (p' :: ps)) = _
    rw [parts_eq_splitOn, List.splitOn_append_cons_self_of_not_mem (ampersand_not_mem_encodePair p),
      ← parts_eq_splitOn, ih, List.map_cons, List.map_cons, List.map_cons]

/-- Pairs are written with the characters of encoded texts and the two marks. -/
theorem mem_encodePairs {ps : List (String × String)} (h : c ∈ encodePairs ps) :
    isPlain c = true ∨ c ∈ ['+', '%', '=', '&'] := by
  have htext {t : String} (hc : c ∈ encode t) : isPlain c = true ∨ c ∈ ['+', '%', '=', '&'] := by
    obtain hplain | rfl | rfl := mem_encode hc
    · exact .inl hplain
    · exact .inr (by decide)
    · exact .inr (by decide)
  have hpair {p : String × String} (hc : c ∈ encodePair p) :
      isPlain c = true ∨ c ∈ ['+', '%', '=', '&'] := by
    obtain hc | hc := List.mem_append.1 hc
    · exact htext hc
    · obtain rfl | hc := List.mem_cons.1 hc
      · exact .inr (by decide)
      · exact htext hc
  fun_induction encodePairs ps with
  | case1 => cases h
  | case2 p => exact hpair h
  | case3 p ps _ ih =>
    obtain h | h := List.mem_append.1 h
    · exact hpair h
    · obtain rfl | h := List.mem_cons.1 h
      · exact .inr (by decide)
      · exact ih h

/-- **Any pairs** are read as themselves, in their order. -/
theorem decodePairs_encodePairs (ps : List (String × String)) : decodePairs (encodePairs ps) = ps := by
  cases ps with
  | nil => rfl
  | cons p ps =>
    have hfull : ((p :: ps).map encodePair).filter (! ·.isEmpty) = (p :: ps).map encodePair := by
      rw [List.filter_eq_self]
      intro part hpart
      obtain ⟨q, -, rfl⟩ := List.mem_map.1 hpart
      simp [encodePair]
    have hpair : decodePair ∘ encodePair = id := funext decodePair_encodePair
    rw [decodePairs, parts_encodePairs, hfull, List.map_map, hpair, List.map_id]

end FlowRuns.Text.Form
