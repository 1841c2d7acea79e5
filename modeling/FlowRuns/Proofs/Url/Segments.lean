import FlowRuns.Proofs.Url.Reading

/-!
# Parts that stay segments

Parts of a path are joined by slashes, and the text is read as the end of a URL. Each part is then one
segment that reads as the part, and nothing else comes of the text, exactly if the parts hold nothing
that would be taken for something else.

* `Unmistakable` — a part that is taken for nothing else.
* `Unblurred` — parts that are, the last of which is not shortened at its end.
* `reads_iff` — **the exact condition**. Nothing that is dropped, resolved or decoded can be made up for
  elsewhere: the path would have to read as long as its text, and reading never adds anything.
-/

namespace FlowRuns.Url

open Text

/-! ## Parts and their text -/

/-- Parts joined by slashes. -/
abbrev joined (parts : List (List Char)) : List Char := ['/'].intercalate parts

/-- A part that is taken for nothing else: no query, fragment or second segment begins in it, nothing is
dropped from it, it is not resolved away, and it is read as itself. -/
structure Unmistakable (s : List Char) : Prop where
  /-- no mark and nothing to drop -/
  plain : ∀ c ∈ s, isPlain c = true
  /-- no slash, nor what is taken for one -/
  noSlash : ∀ c ∈ s, isSlash true c = false
  /-- no dots alone -/
  noDots : isDots s = false
  /-- no escape -/
  noEscape : hasEscape s = false

theorem unmistakable_iff {s : List Char} : Unmistakable s ↔
    (s.all fun c => isPlain c && !isSlash true c) = true ∧ isDots s = false ∧ hasEscape s = false := by
  simp only [List.all_eq_true, Bool.and_eq_true, Bool.not_eq_true']
  exact ⟨fun h => ⟨fun c hc => ⟨h.plain c hc, h.noSlash c hc⟩, h.noDots, h.noEscape⟩,
    fun h => ⟨fun c hc => (h.1 c hc).1, fun c hc => (h.1 c hc).2, h.2.1, h.2.2⟩⟩

instance (s : List Char) : Decidable (Unmistakable s) := decidable_of_iff _ unmistakable_iff.symm

/-- Parts that are taken for nothing else, and the last of which does not end in a blank. -/
structure Unblurred (parts : List (List Char)) : Prop where
  /-- each part -/
  each : ∀ s ∈ parts, Unmistakable s
  /-- the end of the last one -/
  ending : ∀ s, parts.getLast? = some s → ∀ c, s.getLast? = some c → isEndBlank c = false

theorem joined_cons_cons (s t : List Char) (ts : List (List Char)) :
    joined (s :: t :: ts) = s ++ '/' :: joined (t :: ts) := by
  rw [joined, List.intercalate_cons_cons, List.append_assoc, List.singleton_append]

theorem rawLength_joined {parts : List (List Char)} (h : parts ≠ []) :
    rawLength parts = (bytes (joined parts)).length + 1 := by
  induction parts with
  | nil => exact absurd rfl h
  | cons s ss ih =>
    cases ss with
    | nil => simp [rawLength]
    | cons t ts =>
      have hslash : bytesOfChar '/' = [0x2F] := rfl
      rw [rawLength, ih (by simp), joined_cons_cons, bytes_append, bytes_cons, hslash]
      simp only [List.length_append, List.length_cons, List.length_nil]
      omega

/-- Joined parts have a slash less than there are parts, and more only if a part holds one. -/
theorem countP_joined {parts : List (List Char)} (h : parts ≠ []) :
    parts.length ≤ (joined parts).countP (isSlash true) + 1 ∧
      ((joined parts).countP (isSlash true) + 1 ≤ parts.length →
        ∀ s ∈ parts, ∀ c ∈ s, isSlash true c = false) := by
  induction parts with
  | nil => exact absurd rfl h
  | cons s ss ih =>
    cases ss with
    | nil => simp
    | cons t ts =>
      obtain ⟨hle, hall⟩ := ih (by simp)
      rw [joined_cons_cons, List.countP_append, List.countP_cons_of_pos (by decide), List.length_cons]
      refine ⟨by omega, fun hcount => ?_⟩
      have hs : s.countP (isSlash true) = 0 := by omega
      intro u hu
      obtain rfl | hu := List.mem_cons.1 hu
      · simpa using List.countP_eq_zero.1 hs
      · exact hall (by omega) u hu

theorem splitPath_joined {parts : List (List Char)} (h : parts ≠ [])
    (hslash : ∀ s ∈ parts, ∀ c ∈ s, isSlash true c = false) :
    splitPath true (joined parts) = parts := by
  induction parts with
  | nil => exact absurd rfl h
  | cons s ss ih =>
    cases ss with
    | nil => simpa using splitPath_of_no_slash (hslash s List.mem_cons_self)
    | cons t ts =>
      rw [joined_cons_cons, splitPath_append (hslash s List.mem_cons_self) (by decide),
        ih (by simp) fun u hu => hslash u (List.mem_cons_of_mem s hu)]

theorem forall_mem_joined {p : Char → Prop} (hslash : p '/') {parts : List (List Char)} :
    (∀ c ∈ joined parts, p c) ↔ ∀ s ∈ parts, ∀ c ∈ s, p c := by
  induction parts with
  | nil => simp [joined]
  | cons s ss ih =>
    cases ss with
    | nil => simp [joined]
    | cons t ts =>
      rw [joined_cons_cons, List.forall_mem_append, List.forall_mem_cons, ih, List.forall_mem_cons]
      simp [hslash]

/-- Joined parts end as their last part does, or in a slash. -/
theorem ending_joined_iff {parts : List (List Char)} :
    (∀ c, (joined parts).getLast? = some c → isEndBlank c = false) ↔
      ∀ s, parts.getLast? = some s → ∀ c, s.getLast? = some c → isEndBlank c = false := by
  induction parts with
  | nil => simp [joined]
  | cons s ss ih =>
    cases ss with
    | nil => simp [joined]
    | cons t ts =>
      rw [List.getLast?_cons_cons, ← ih, joined_cons_cons, List.getLast?_append]
      cases hj : joined (t :: ts) with
      | nil => simp [isEndBlank]
      | cons d ds => simp [List.getLast?_cons]

/-! ## Texts that are read whole -/

/-- What is read of a text before its query and fragment. -/
def mainPart (s : List Char) : List Char := (cutTail (cleanEnd s)).1

theorem cleanEnd_sublist (s : List Char) : (cleanEnd s).Sublist s :=
  List.filter_sublist.trans
    (by simpa using (List.dropWhile_sublist (l := s.reverse) isEndBlank).reverse)

theorem bytes_length_of_sublist {s t : List Char} (h : s.Sublist t) :
    (bytes s).length ≤ (bytes t).length ∧ ((bytes s).length = (bytes t).length → s = t) := by
  induction h with
  | slnil => simp
  | cons c h ih =>
    have hc : 0 < (bytesOfChar c).length := List.length_pos_iff.2 (bytesOfChar_ne_nil c)
    rw [bytes_cons, List.length_append]
    exact ⟨by omega, fun heq => by omega⟩
  | cons_cons c h ih =>
    simp only [bytes_cons, List.length_append]
    exact ⟨by omega, fun heq => by rw [ih.2 (by omega)]⟩

theorem dropWhile_eq_self_iff {p : Char → Bool} {s : List Char} :
    s.dropWhile p = s ↔ ∀ c, s.head? = some c → p c = false := by
  cases s with
  | nil => simp
  | cons c s =>
    cases hc : p c with
    | false => simp [hc]
    | true =>
      have hne : s.dropWhile p ≠ c :: s := fun h => by
        have hlen := (List.dropWhile_sublist (l := s) p).length_le
        rw [h, List.length_cons] at hlen
        omega
      simp [hc, hne]

/-- A text of plain characters that does not end in a blank has no query and nothing to drop. -/
theorem cutTail_cleanEnd {s : List Char} (hplain : ∀ c ∈ s, isPlain c = true)
    (hend : ∀ c, s.getLast? = some c → isEndBlank c = false) :
    cutTail (cleanEnd s) = (s, none, none) := by
  have htrim : (s.reverse.dropWhile isEndBlank).reverse = s := by
    rw [List.reverse_eq_iff, dropWhile_eq_self_iff, List.head?_reverse]
    exact hend
  have hclean : cleanEnd s = s := by
    rw [cleanEnd, htrim, List.filter_eq_self]
    exact fun c hc => (isPlain_iff.1 (hplain c hc)).1
  rw [hclean, cutTail_of_plain fun c hc => (isPlain_iff.1 (hplain c hc)).2]

/-- A text is read whole exactly if it has only plain characters and does not end in a blank. -/
theorem mainPart_eq_self_iff {s : List Char} :
    mainPart s = s ↔ (∀ c ∈ s, isPlain c = true) ∧ ∀ c, s.getLast? = some c → isEndBlank c = false := by
  refine ⟨fun h => ?_, fun ⟨hplain, hend⟩ => by rw [mainPart, cutTail_cleanEnd hplain hend]⟩
  obtain ⟨hsublist, hmarks⟩ := cutTail_fst (cleanEnd s)
  rw [mainPart] at h
  rw [h] at hsublist hmarks
  refine ⟨fun c hc => isPlain_iff.2 ⟨(List.mem_filter.1 (hsublist.subset hc)).2, hmarks c hc⟩, ?_⟩
  have htrim : ((s.reverse.dropWhile isEndBlank).reverse).Sublist s := by
    simpa using (List.dropWhile_sublist (l := s.reverse) isEndBlank).reverse
  have hwhole := htrim.eq_of_length_le (hsublist.trans List.filter_sublist).length_le
  rw [List.reverse_eq_iff, dropWhile_eq_self_iff, List.head?_reverse] at hwhole
  exact hwhole

/-! ## The exact condition -/

theorem readLength_of_map_eq {ss parts : List (List Char)}
    (h : ss.map percentDecode = parts.map bytes) : readLength ss = rawLength parts := by
  induction ss generalizing parts with
  | nil =>
    cases parts with
    | nil => rfl
    | cons p ps => cases h
  | cons s ss ih =>
    cases parts with
    | nil => cases h
    | cons p ps =>
      obtain ⟨hhead, htail⟩ := List.cons.inj h
      rw [readLength, rawLength, hhead, ih htail]

/-- Joined parts are read whole exactly if each is of plain characters and the last does not end in a
blank. -/
theorem mainPart_joined_iff {parts : List (List Char)} :
    mainPart (joined parts) = joined parts ↔ (∀ s ∈ parts, ∀ c ∈ s, isPlain c = true) ∧
      ∀ s, parts.getLast? = some s → ∀ c, s.getLast? = some c → isEndBlank c = false := by
  rw [mainPart_eq_self_iff, forall_mem_joined (p := (isPlain · = true)) (by decide), ending_joined_iff]

theorem cutTail_of_unblurred {parts : List (List Char)} (h : Unblurred parts) :
    cutTail (cleanEnd (joined parts)) = (joined parts, none, none) :=
  cutTail_cleanEnd ((forall_mem_joined (p := (isPlain · = true)) (by decide)).2
    fun s hs => (h.each s hs).plain) (ending_joined_iff.2 h.ending)

/-- Unblurred parts are kept, each encoded for its place. -/
theorem resolve_of_unblurred {parts : List (List Char)} (hparts : parts ≠ []) (h : Unblurred parts)
    (before : List (List Char)) :
    resolve keep before (splitPath true (mainPart (joined parts))) =
      before.reverse ++ parts.map (percentEncode .path) := by
  rw [mainPart, cutTail_of_unblurred h,
    splitPath_joined hparts fun s hs => (h.each s hs).noSlash]
  have hresolve := resolve_append (fun s hs => (h.each s hs).noDots) before []
  rw [List.append_nil] at hresolve
  rw [hresolve, resolve]
  simp

/-- A path that goes on to read as long as its text was written has lost nothing: the text was read
whole, and none of its segments is dots alone or holds an escape. -/
theorem whole_of_readLength {parts : List (List Char)} (hparts : parts ≠ [])
    {before ss : List (List Char)}
    (hresolve : resolve keep before (splitPath true (mainPart (joined parts))) = before.reverse ++ ss)
    (hlength : readLength ss = rawLength parts) :
    mainPart (joined parts) = joined parts ∧
      ∀ s ∈ splitPath true (joined parts), isDots s = false ∧ hasEscape s = false := by
  obtain ⟨hle, hlt⟩ := readLength_resolve before (splitPath true (mainPart (joined parts)))
  have hsublist : (mainPart (joined parts)).Sublist (joined parts) :=
    (cutTail_fst _).1.trans (cleanEnd_sublist _)
  obtain ⟨hbytes, hwhole⟩ := bytes_length_of_sublist hsublist
  rw [hresolve, readLength_append, readLength_reverse, hlength, rawLength_joined hparts,
    rawLength_splitPath] at hle hlt
  have hmain : mainPart (joined parts) = joined parts := hwhole (by omega)
  rw [hmain] at hlt
  have hkept : (splitPath true (joined parts)).any isShortening = false := by
    cases hany : (splitPath true (joined parts)).any isShortening with
    | false => rfl
    | true =>
      have := hlt hany
      omega
  rw [List.any_eq_false] at hkept
  exact ⟨hmain, fun s hs => by simpa [isShortening] using hkept s hs⟩

/-- **The exact condition.** Parts that are joined and read are segments that read as the parts exactly
if they are unblurred. -/
theorem reads_iff {parts : List (List Char)} (hparts : parts ≠ []) (before : List (List Char)) :
    (∃ ss, resolve keep before (splitPath true (mainPart (joined parts))) = before.reverse ++ ss ∧
      ss.map percentDecode = parts.map bytes) ↔ Unblurred parts := by
  constructor
  · rintro ⟨ss, hresolve, hread⟩
    obtain ⟨hmain, hstay⟩ := whole_of_readLength hparts hresolve (readLength_of_map_eq hread)
    -- as many segments as parts leave no slash within a part
    have hslash : ∀ s ∈ parts, ∀ c ∈ s, isSlash true c = false := by
      refine (countP_joined hparts).2 (Nat.le_of_eq ?_)
      have hsegments := resolve_append (fun s hs => (hstay s hs).1) before []
      rw [List.append_nil, ← hmain, hresolve, resolve, hmain] at hsegments
      have hcount := congrArg List.length hsegments
      have hlength := congrArg List.length hread
      simp only [List.length_append, List.length_reverse, List.length_map, length_splitPath]
        at hcount hlength
      omega
    rw [splitPath_joined hparts hslash] at hstay
    obtain ⟨hplain, hending⟩ := mainPart_joined_iff.1 hmain
    exact ⟨fun s hs => ⟨hplain s hs, hslash s hs, (hstay s hs).1, (hstay s hs).2⟩, hending⟩
  · intro h
    refine ⟨_, resolve_of_unblurred hparts h before, ?_⟩
    rw [List.map_map]
    refine List.map_congr_left fun s hs => ?_
    change percentDecode (percentEncode .path s) = bytes s
    rw [percentDecode_percentEncode PercentSet.path_sparesEscapes,
      percentDecode_eq_bytes (h.each s hs).noEscape]

end FlowRuns.Url
