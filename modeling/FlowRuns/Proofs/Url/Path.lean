import FlowRuns.Url.Basic
import FlowRuns.Proofs.Text.Form

/-!
# Paths

How the path of a URL comes from a text: it is split at slashes, single and double dots are resolved,
and what is kept is percent-encoded.

* `isSingleDot_iff`, `isDoubleDot_iff` — dots are what reads as dots, so that encoding neither makes
  nor hides them.
* `splitPath_append`, `length_splitPath`, `rawLength_splitPath` — the segments of a text.
* `Settled` — a segment that reads as itself when it is read once more; `settled_resolve`: all segments
  of a path are.
* `readLength_resolve` — resolving never makes a path read longer than its text is, and makes it read
  shorter where it finds dots or escapes.
-/

namespace FlowRuns.Url

open Text

/-! ## Dots -/

/-- The byte of a point. -/
abbrev point : UInt8 := 0x2E

theorem toNat_lt_codePoints (c : Char) : c.toNat < 0x110000 := by
  have h := c.valid
  simp only [UInt32.isValidChar, Nat.isValidChar] at h
  change c.val.toNat < _
  omega

/-- Only a point is written as the byte of a point. -/
theorem eq_of_bytesOfChar_point {c : Char} {bs : List UInt8} (h : bytesOfChar c = point :: bs) :
    c = '.' ∧ bs = [] := by
  have hlt := toNat_lt_codePoints c
  have hpoint : point.toNat = 46 ∧ '.'.toNat = 46 := by decide
  by_cases hc : c.toNat < 0x80
  · rw [bytesOfChar_of_ascii hc, List.cons.injEq] at h
    have hbyte := congrArg UInt8.toNat h.1
    rw [UInt8.toNat_ofNat'] at hbyte
    exact ⟨Char.toNat_inj.1 (by omega), h.2.symm⟩
  · -- the first of several bytes is at least `0xC0`
    exfalso
    unfold bytesOfChar at h
    simp only [if_neg hc] at h
    split at h
    · have hbyte := congrArg UInt8.toNat (List.cons.inj h).1
      rw [UInt8.toNat_ofNat'] at hbyte
      omega
    · split at h
      · have hbyte := congrArg UInt8.toNat (List.cons.inj h).1
        rw [UInt8.toNat_ofNat'] at hbyte
        omega
      · have hbyte := congrArg UInt8.toNat (List.cons.inj h).1
        rw [UInt8.toNat_ofNat'] at hbyte
        omega

/-- Only `2e` and `2E` are the digits of a point. -/
theorem eq_of_pointDigits {d e : Char} {high low : Nat} (hd : hexValue? d = some high)
    (he : hexValue? e = some low) (h : UInt8.ofNat (16 * high + low) = point) :
    d = '2' ∧ (e = 'e' ∨ e = 'E') := by
  have hdigit : ∀ n < 128, ∀ v ∈ hexValue? (Char.ofNat n), v < 16 ∧
      (v = 2 → Char.ofNat n = '2') ∧
      (v = 14 → Char.ofNat n = 'e' ∨ Char.ofNat n = 'E') := by decide
  have hvalue : ∀ {c v}, hexValue? c = some v →
      v < 16 ∧ (v = 2 → c = '2') ∧ (v = 14 → c = 'e' ∨ c = 'E') := fun {c v} hc =>
    forall_ascii (fun c => ∀ v ∈ hexValue? c, v < 16 ∧ (v = 2 → c = '2') ∧
      (v = 14 → c = 'e' ∨ c = 'E')) hdigit (isHexDigit_ascii (by rw [isHexDigit, hc]; rfl)) v hc
  obtain ⟨hhigh, htwo, _⟩ := hvalue hd
  obtain ⟨hlow, _, hfourteen⟩ := hvalue he
  have hbyte := congrArg UInt8.toNat h
  have hpoint : point.toNat = 46 := by decide
  rw [UInt8.toNat_ofNat'] at hbyte
  exact ⟨htwo (by omega), hfourteen (by omega)⟩

/-- What begins neither with a point nor with an escape that stands for one is not read as one at its
start. -/
theorem percentDecode_cons_head {c : Char} {s : List Char} (hc : c ≠ '.')
    (hlower : ∀ t, c = '%' → s = '2' :: 'e' :: t → False)
    (hupper : ∀ t, c = '%' → s = '2' :: 'E' :: t → False) :
    ∃ b bs, percentDecode (c :: s) = b :: bs ∧ b ≠ point := by
  by_cases hbegin : c = '%' → beginsWithByte s = false
  · obtain ⟨b, bs, hb⟩ := List.exists_cons_of_ne_nil (bytesOfChar_ne_nil c)
    refine ⟨b, bs ++ percentDecode s, by rw [percentDecode_cons hbegin, hb]; rfl, ?_⟩
    rintro rfl
    exact hc (eq_of_bytesOfChar_point hb).1
  · obtain ⟨rfl, hbyte⟩ : c = '%' ∧ beginsWithByte s = true := by simpa using hbegin
    match s, hbyte with
    | d :: e :: t, hbyte =>
      simp only [beginsWithByte, isHexDigit, Bool.and_eq_true, Option.isSome_iff_exists] at hbyte
      obtain ⟨⟨high, hd⟩, ⟨low, he⟩⟩ := hbyte
      refine ⟨_, _, percentDecode_escape hd he t, fun hpoint => ?_⟩
      obtain ⟨rfl, rfl | rfl⟩ := eq_of_pointDigits hd he hpoint
      · exact hlower t rfl rfl
      · exact hupper t rfl rfl

/-- A text has only points exactly if it reads as the bytes of points. -/
theorem dotted_eq_points_iff (s : List Char) (n : Nat) :
    dotted s = List.replicate n '.' ↔ percentDecode s = List.replicate n point := by
  fun_induction dotted s generalizing n with
  | case1 rest ih =>
    rw [percentDecode_escape rfl rfl]
    cases n with
    | zero => simp
    | succ n => simp [List.replicate_succ, ih]
  | case2 rest ih =>
    rw [percentDecode_escape rfl rfl]
    cases n with
    | zero => simp
    | succ n => simp [List.replicate_succ, ih]
  | case3 c rest hlower hupper ih =>
    by_cases hc : c = '.'
    · subst hc
      rw [percentDecode_cons (by simp)]
      change _ ↔ point :: percentDecode rest = _
      cases n with
      | zero => simp
      | succ n => simp [List.replicate_succ, ih]
    · have hdots : c :: dotted rest ≠ List.replicate n '.' := fun h => by
        cases n with
        | zero => cases h
        | succ n => exact hc (List.cons.inj h).1
      have hbytes : percentDecode (c :: rest) ≠ List.replicate n point := fun h => by
        obtain ⟨b, bs, hb, hne⟩ := percentDecode_cons_head hc hlower hupper
        rw [hb] at h
        cases n with
        | zero => cases h
        | succ n => exact hne (List.cons.inj h).1
      exact ⟨fun h => absurd h hdots, fun h => absurd h hbytes⟩
  | case4 =>
    cases n with
    | zero => simp [percentDecode]
    | succ n => simp [percentDecode, List.replicate_succ]

theorem isSingleDot_iff {s : List Char} : isSingleDot s = true ↔ percentDecode s = [point] := by
  unfold isSingleDot
  rw [decide_eq_true_iff]
  exact dotted_eq_points_iff s 1

theorem isDoubleDot_iff {s : List Char} : isDoubleDot s = true ↔ percentDecode s = [point, point] := by
  unfold isDoubleDot
  rw [decide_eq_true_iff]
  exact dotted_eq_points_iff s 2

/-- A segment that is resolved away. -/
def isDots (s : List Char) : Bool := isSingleDot s || isDoubleDot s

theorem isDots_percentEncode {set : PercentSet} (hset : set.SparesEscapes) (s : List Char) :
    isDots (percentEncode set s) = isDots s := by
  rw [Bool.eq_iff_iff]
  simp only [isDots, Bool.or_eq_true, isSingleDot_iff, isDoubleDot_iff,
    percentDecode_percentEncode hset]

theorem isDots_nil : isDots [] = false := by decide

/-! ## Splitting -/

section Split

variable {special : Bool}

theorem splitPath_cons_slash {c : Char} (h : isSlash special c = true) (s : List Char) :
    splitPath special (c :: s) = [] :: splitPath special s := by
  simp [splitPath, h, Form.parts]

theorem splitPath_ne_nil (s : List Char) : splitPath special s ≠ [] := by
  rw [splitPath, Form.parts_eq_splitOn]
  exact List.splitOn_ne_nil _ _

theorem splitPath_cons {c : Char} (h : isSlash special c = false) (s : List Char) :
    ∃ p ps, splitPath special s = p :: ps ∧ splitPath special (c :: s) = (c :: p) :: ps := by
  have hne : splitPath special s ≠ [] := splitPath_ne_nil s
  obtain ⟨p, ps, hs⟩ := List.exists_cons_of_ne_nil hne
  refine ⟨p, ps, hs, ?_⟩
  have hc : c ≠ '/' := by
    rintro rfl
    simp [isSlash] at h
  unfold splitPath at hs ⊢
  rw [List.map_cons, if_neg (by simp [h]), Form.parts, if_neg hc, hs]

/-- The first segment ends at the first slash. -/
theorem splitPath_append {s : List Char} (h : ∀ c ∈ s, isSlash special c = false) {c : Char}
    (hc : isSlash special c = true) (t : List Char) :
    splitPath special (s ++ c :: t) = s :: splitPath special t := by
  induction s with
  | nil => exact splitPath_cons_slash hc t
  | cons d s ih =>
    obtain ⟨p, ps, hs, hds⟩ := splitPath_cons (h d List.mem_cons_self) (s ++ c :: t)
    rw [ih fun e he => h e (List.mem_cons_of_mem d he)] at hs
    obtain ⟨rfl, rfl⟩ := List.cons.inj hs
    exact hds

theorem splitPath_of_no_slash {s : List Char} (h : ∀ c ∈ s, isSlash special c = false) :
    splitPath special s = [s] := by
  induction s with
  | nil => rfl
  | cons d s ih =>
    obtain ⟨p, ps, hs, hds⟩ := splitPath_cons (h d List.mem_cons_self) s
    rw [ih fun e he => h e (List.mem_cons_of_mem d he)] at hs
    obtain ⟨rfl, rfl⟩ := List.cons.inj hs
    exact hds

/-- There is one segment more than there are slashes. -/
theorem length_splitPath (s : List Char) :
    (splitPath special s).length = s.countP (isSlash special) + 1 := by
  induction s with
  | nil => rfl
  | cons c s ih =>
    cases h : isSlash special c with
    | true => rw [splitPath_cons_slash h, List.length_cons, ih, List.countP_cons_of_pos h]
    | false =>
      obtain ⟨p, ps, hs, hcs⟩ := splitPath_cons h s
      rw [hcs, List.countP_cons_of_neg (by simp [h]), ← ih, hs]
      rfl

/-- A segment holds no slash. -/
theorem mem_splitPath {s p : List Char} (hp : p ∈ splitPath special s) :
    ∀ c ∈ p, isSlash special c = false := by
  induction s generalizing p with
  | nil =>
    rw [splitPath_of_no_slash (by simp), List.mem_singleton] at hp
    simp [hp]
  | cons d s ih =>
    cases h : isSlash special d with
    | true =>
      rw [splitPath_cons_slash h, List.mem_cons] at hp
      obtain rfl | hp := hp
      · simp
      · exact ih hp
    | false =>
      obtain ⟨q, qs, hs, hds⟩ := splitPath_cons h s
      rw [hds, List.mem_cons] at hp
      obtain rfl | hp := hp
      · intro c hc
        obtain rfl | hc := List.mem_cons.1 hc
        · exact h
        · exact ih (hs ▸ List.mem_cons_self) c hc
      · exact ih (hs ▸ List.mem_cons_of_mem q hp)

end Split

/-! ## Lengths -/

/-- How many bytes segments have, each with the slash before it. -/
def rawLength : List (List Char) → Nat
  | [] => 0
  | s :: ss => (bytes s).length + 1 + rawLength ss

/-- As how many bytes segments are read, each with the slash before it. -/
def readLength : List (List Char) → Nat
  | [] => 0
  | s :: ss => (percentDecode s).length + 1 + readLength ss

theorem readLength_append (ss ts : List (List Char)) :
    readLength (ss ++ ts) = readLength ss + readLength ts := by
  induction ss with
  | nil => simp [readLength]
  | cons s ss ih => simp only [List.cons_append, readLength, ih]; omega

theorem readLength_reverse (ss : List (List Char)) : readLength ss.reverse = readLength ss := by
  induction ss with
  | nil => rfl
  | cons s ss ih => rw [List.reverse_cons, readLength_append, ih]; simp only [readLength]; omega

/-- Splitting a text loses nothing of it. -/
theorem rawLength_splitPath {special : Bool} (s : List Char) :
    rawLength (splitPath special s) = (bytes s).length + 1 := by
  induction s with
  | nil => rfl
  | cons c s ih =>
    cases h : isSlash special c with
    | true =>
      have hascii : c.toNat < 0x80 := by
        have hslash : c = '/' ∨ c = '\\' := by
          simp only [isSlash, Bool.or_eq_true, decide_eq_true_eq, Bool.and_eq_true] at h
          exact h.imp_right (·.2)
        obtain rfl | rfl := hslash <;> decide
      rw [splitPath_cons_slash h, rawLength, ih, bytes_cons, bytesOfChar_of_ascii hascii]
      simp
      omega
    | false =>
      obtain ⟨p, ps, hs, hcs⟩ := splitPath_cons h s
      rw [hs, rawLength] at ih
      rw [hcs, rawLength, bytes_cons, bytes_cons, List.length_append, List.length_append]
      omega

/-! ## Resolving dots -/

theorem resolve_cons {s : List Char} (h : isDots s = false) (before rest : List (List Char)) :
    resolve keep before (s :: rest) = resolve keep (keep before s) rest := by
  obtain ⟨hsingle, hdouble⟩ : isSingleDot s = false ∧ isDoubleDot s = false := by
    simpa [isDots] using h
  cases rest with
  | nil => simp [resolve, hsingle, hdouble]
  | cons t ts => rw [resolve.eq_3 _ _ _ _ (by simp)]; simp [hsingle, hdouble]

/-- Segments without dots are kept as they come. -/
theorem resolve_append {ss : List (List Char)} (hss : ∀ s ∈ ss, isDots s = false)
    (before rest : List (List Char)) :
    resolve keep before (ss ++ rest) =
      resolve keep ((ss.map (percentEncode .path)).reverse ++ before) rest := by
  induction ss generalizing before with
  | nil => rfl
  | cons s ss ih =>
    rw [List.cons_append, resolve_cons (hss s List.mem_cons_self),
      ih fun t ht => hss t (List.mem_cons_of_mem s ht)]
    simp [keep]

theorem readLength_climb (before : List (List Char)) :
    readLength (climb before) ≤ readLength before := by
  cases before with
  | nil => exact Nat.le_refl _
  | cons s before =>
    rw [climb]
    split
    · exact Nat.le_refl _
    · exact Nat.le_add_left _ _

theorem bytes_pos_of_isDots {s : List Char} (h : isDots s = true) : 0 < (bytes s).length := by
  cases s with
  | nil => rw [isDots_nil] at h; cases h
  | cons c s =>
    rw [bytes_cons, List.length_append]
    exact Nat.add_pos_left (List.length_pos_iff.2 (bytesOfChar_ne_nil c)) _

/-- A segment that makes a path read shorter than its text is. -/
def isShortening (s : List Char) : Bool := isDots s || hasEscape s

theorem readLength_keep (before : List (List Char)) (s : List Char) :
    readLength (keep before s) = (percentDecode s).length + 1 + readLength before := by
  rw [keep, readLength, percentDecode_percentEncode PercentSet.path_sparesEscapes]

/-- **Resolving never lengthens a path**, and shortens it where it finds dots or escapes. -/
theorem readLength_resolve (before ss : List (List Char)) :
    readLength (resolve keep before ss) ≤ readLength before + rawLength ss ∧
      (ss.any isShortening = true →
        readLength (resolve keep before ss) < readLength before + rawLength ss) := by
  -- dots at the end, then a segment that is kept there; then the same three with more to come
  fun_induction resolve keep before ss with
  | case1 before => simp [readLength_reverse]
  | case2 before s hdouble =>
    have hs := bytes_pos_of_isDots (s := s) (by simp [isDots, hdouble])
    have hclimb := readLength_climb before
    have hlt : readLength ([] :: climb before).reverse < readLength before + rawLength [s] := by
      rw [readLength_reverse]
      simp only [readLength, rawLength, percentDecode, List.length_nil]
      omega
    exact ⟨Nat.le_of_lt hlt, fun _ => hlt⟩
  | case3 before s _ hsingle =>
    have hs := bytes_pos_of_isDots (s := s) (by simp [isDots, hsingle])
    have hlt : readLength ([] :: before).reverse < readLength before + rawLength [s] := by
      rw [readLength_reverse]
      simp only [readLength, rawLength, percentDecode, List.length_nil]
      omega
    exact ⟨Nat.le_of_lt hlt, fun _ => hlt⟩
  | case4 before s hdouble hsingle =>
    obtain ⟨hle, hlt⟩ := length_percentDecode s
    rw [readLength_reverse, readLength_keep]
    simp only [rawLength, List.any_cons, List.any_nil, Bool.or_false, isShortening, isDots,
      hdouble, hsingle, Bool.false_or]
    exact ⟨by omega, fun h => by have := hlt h; omega⟩
  | case5 before s rest hrest hdouble ih =>
    have hclimb := readLength_climb before
    have hlt : readLength (resolve keep (climb before) rest) <
        readLength before + rawLength (s :: rest) := by
      have := ih.1
      simp only [rawLength]
      omega
    exact ⟨Nat.le_of_lt hlt, fun _ => hlt⟩
  | case6 before s rest hrest hdouble hsingle ih =>
    have hlt : readLength (resolve keep before rest) < readLength before + rawLength (s :: rest) := by
      have := ih.1
      simp only [rawLength]
      omega
    exact ⟨Nat.le_of_lt hlt, fun _ => hlt⟩
  | case7 before s rest hrest hdouble hsingle ih =>
    obtain ⟨hle, hlt⟩ := length_percentDecode s
    rw [readLength_keep] at ih
    simp only [rawLength, List.any_cons, Bool.or_eq_true, isShortening, isDots,
      hdouble, hsingle, Bool.false_eq_true, false_or]
    refine ⟨by omega, fun h => ?_⟩
    obtain h | h := h
    · have := hlt h
      omega
    · have := ih.2 h
      omega

/-! ## Segments that stay -/

/-- A segment that reads as itself when it is read once more. -/
structure Settled (s : List Char) : Prop where
  /-- it holds what may stand in a path -/
  spared : ∀ c ∈ s, c.toNat < 0x80 ∧ PercentSet.path c = false
  /-- no slash ends it -/
  noSlash : ∀ c ∈ s, isSlash true c = false
  /-- it is not resolved away -/
  noDots : isDots s = false

theorem settled_iff {s : List Char} : Settled s ↔
    (s.all fun c => c.toNat < 0x80 && !PercentSet.path c && !isSlash true c) = true ∧
      isDots s = false := by
  simp only [List.all_eq_true, Bool.and_eq_true, Bool.not_eq_true', decide_eq_true_eq]
  exact ⟨fun h => ⟨fun c hc => ⟨h.spared c hc, h.noSlash c hc⟩, h.noDots⟩,
    fun h => ⟨fun c hc => (h.1 c hc).1, fun c hc => (h.1 c hc).2, h.2⟩⟩

instance (s : List Char) : Decidable (Settled s) := decidable_of_iff _ settled_iff.symm

theorem Settled.nil : Settled [] := ⟨by simp, by simp, isDots_nil⟩

theorem Settled.encoded {s : List Char} (h : Settled s) : percentEncode .path s = s :=
  percentEncode_eq_self h.spared

/-- What is kept of a segment stays. -/
theorem settled_percentEncode {s : List Char} (hslash : ∀ c ∈ s, isSlash true c = false)
    (hdots : isDots s = false) : Settled (percentEncode .path s) where
  spared _ hc := mem_percentEncode PercentSet.path_sparesEscapes hc
  noSlash c hc := by
    have hdigit : ∀ n < 128, isHexDigit (Char.ofNat n) = true →
        isSlash true (Char.ofNat n) = false := by decide
    obtain hc | rfl | hc := mem_or_of_mem_percentEncode hc
    · exact hslash c hc
    · decide
    · exact forall_ascii (fun c => isHexDigit c = true → isSlash true c = false) hdigit
        (isHexDigit_ascii hc) hc
  noDots := by rw [isDots_percentEncode PercentSet.path_sparesEscapes, hdots]

theorem settled_climb {before : List (List Char)} (h : ∀ s ∈ before, Settled s) :
    ∀ s ∈ climb before, Settled s := by
  cases before with
  | nil => exact h
  | cons t before =>
    rw [climb]
    split
    · exact h
    · exact fun s hs => h s (List.mem_cons_of_mem t hs)

/-- **Every segment of a path stays** when the path is read once more. -/
theorem settled_resolve {before ss : List (List Char)} (hbefore : ∀ s ∈ before, Settled s)
    (hss : ∀ s ∈ ss, ∀ c ∈ s, isSlash true c = false) :
    ∀ s ∈ resolve keep before ss, Settled s := by
  have hcons : ∀ {t : List Char} {b : List (List Char)}, Settled t → (∀ s ∈ b, Settled s) →
      ∀ s ∈ t :: b, Settled s := fun ht hb s hs => by
    obtain rfl | hs := List.mem_cons.1 hs
    · exact ht
    · exact hb s hs
  fun_induction resolve keep before ss with
  | case1 before => exact fun s hs => hbefore s (List.mem_reverse.1 hs)
  | case2 before s hdouble =>
    exact fun s hs => hcons Settled.nil (settled_climb hbefore) s (List.mem_reverse.1 hs)
  | case3 before s hdouble hsingle =>
    exact fun s hs => hcons Settled.nil hbefore s (List.mem_reverse.1 hs)
  | case4 before s hdouble hsingle =>
    have hs := settled_percentEncode (hss s List.mem_cons_self) (by simp [isDots, hdouble, hsingle])
    exact fun t ht => hcons hs hbefore t (List.mem_reverse.1 ht)
  | case5 before s rest hrest hdouble ih =>
    exact ih (settled_climb hbefore) fun t ht => hss t (List.mem_cons_of_mem s ht)
  | case6 before s rest hrest hdouble hsingle ih =>
    exact ih hbefore fun t ht => hss t (List.mem_cons_of_mem s ht)
  | case7 before s rest hrest hdouble hsingle ih =>
    have hs := settled_percentEncode (hss s List.mem_cons_self) (by simp [isDots, hdouble, hsingle])
    exact ih (hcons hs hbefore) fun t ht => hss t (List.mem_cons_of_mem s ht)

/-! ## Slashes at the end -/

/-- Segments without the empty ones at the end. -/
def trimmed (ss : List (List Char)) : List (List Char) := (ss.reverse.dropWhile List.isEmpty).reverse

/-- A text that ends in segments, without the slashes at its end. -/
theorem dropWhile_slash_segments {front : List Char} (hfront : front.getLast? ≠ some '/')
    {ss : List (List Char)} (hss : ∀ s ∈ ss, '/' ∉ s) :
    ((front ++ ss.flatMap ('/' :: ·)).reverse.dropWhile (· = '/')).reverse =
      front ++ (trimmed ss).flatMap ('/' :: ·) := by
  rw [trimmed]
  -- the segments go from the last to the first
  generalize hrs : ss.reverse = rs
  obtain rfl : ss = rs.reverse := by rw [← hrs, List.reverse_reverse]
  clear hrs
  induction rs with
  | nil =>
    cases hrev : front.reverse with
    | nil => simp [List.reverse_eq_nil_iff.1 hrev]
    | cons c rest =>
      have hlast : front.getLast? = some c := by rw [List.getLast?_eq_head?_reverse, hrev]; rfl
      have hc : c ≠ '/' := fun h => hfront (h ▸ hlast)
      simp [hrev, hc, ← List.reverse_eq_iff.1 hrev]
  | cons s rs ih =>
    have htext : (front ++ (s :: rs).reverse.flatMap ('/' :: ·)).reverse =
        s.reverse ++ '/' :: (front ++ rs.reverse.flatMap ('/' :: ·)).reverse := by simp
    rw [htext]
    cases hs : s.reverse with
    | nil =>
      obtain rfl : s = [] := List.reverse_eq_nil_iff.1 hs
      have hrs : ∀ t ∈ rs.reverse, '/' ∉ t := fun t ht => hss t (by simp_all)
      rw [List.nil_append, List.dropWhile_cons_of_pos (by simp), ih hrs,
        List.dropWhile_cons_of_pos (by simp)]
    | cons c cs =>
      have hcs : s = cs.reverse ++ [c] := by rw [← List.reverse_reverse s, hs, List.reverse_cons]
      have hc : c ≠ '/' := fun h => hss s (by simp) (by simp [hcs, h])
      rw [List.cons_append, List.dropWhile_cons_of_neg (by simpa using hc),
        List.dropWhile_cons_of_neg (by simp [hcs]), ← List.cons_append, ← hs, ← htext,
        List.reverse_reverse]

theorem settled_trimmed {ss : List (List Char)} (h : ∀ s ∈ ss, Settled s) :
    ∀ s ∈ trimmed ss, Settled s := fun s hs =>
  h s (List.mem_reverse.1 ((List.dropWhile_sublist _).subset (List.mem_reverse.1 hs)))

end FlowRuns.Url
