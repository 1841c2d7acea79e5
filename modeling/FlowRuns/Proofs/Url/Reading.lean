import FlowRuns.Proofs.Url.Authority

/-!
# Reading a URL that was written

What comes of a text that begins with the scheme, the authority and some segments of a URL that was
read before, and goes on with anything: the beginning is read as what it was, and what follows it is
split, resolved and encoded.

* `clean_append`, `scheme?_append`, `cutTail_append` — the steps of reading, up to the part that is new.
* `parse_spec` — the parts of a URL, and what they come from.
* `authority_and_path_of_parse`, `path_of_parse_append` — the two readings.
-/

namespace FlowRuns.Url

open Text

/-! ## Both ends -/

/-- The end of a text is dropped up to a character that stays. -/
theorem trimEnd_append_cons {α : Type} {p : α → Bool} {c : α} (hc : p c = false) (front back : List α) :
    ((front ++ c :: back).reverse.dropWhile p).reverse =
      front ++ c :: (back.reverse.dropWhile p).reverse := by
  have hrev : (front ++ c :: back).reverse = back.reverse ++ c :: front.reverse := by simp
  rw [hrev, List.dropWhile_append]
  split
  · rename_i hempty
    rw [List.isEmpty_iff.1 hempty, List.dropWhile_cons_of_neg (by simp [hc])]
    simp
  · simp

/-- A character that is dropped from the ends of a text. -/
abbrev isEndBlank (c : Char) : Bool := c.toNat ≤ 0x20

/-- A character that is kept wherever it stands. -/
abbrev isUnbroken (c : Char) : Bool := c ≠ '\t' && c ≠ '\n' && c ≠ '\r'

/-- The end of a text, as it is read. -/
def cleanEnd (s : List Char) : List Char := (s.reverse.dropWhile isEndBlank).reverse.filter isUnbroken

/-- A text whose beginning is in order. -/
theorem clean_append {front back : List Char} {first c : Char} (hfirst : front.head? = some first)
    (hblank : isEndBlank first = false) (hfront : ∀ d ∈ front, isUnbroken d = true)
    (hc : isEndBlank c = false) (hc' : isUnbroken c = true) :
    clean (front ++ c :: back) = front ++ c :: cleanEnd back := by
  obtain ⟨rest, rfl⟩ := List.head?_eq_some_iff.1 hfirst
  have hbegin : (first :: rest ++ c :: back).dropWhile isEndBlank = first :: rest ++ c :: back := by
    rw [List.cons_append, List.dropWhile_cons_of_neg (by simp [hblank])]
  unfold clean
  simp only [hbegin]
  rw [trimEnd_append_cons hc, List.filter_append, List.filter_eq_self.2 hfront,
    List.filter_cons_of_pos hc']
  rfl

/-! ## Schemes -/

/-- A scheme as it is written in a URL. -/
structure IsScheme (s : List Char) : Prop where
  /-- it begins with a letter -/
  letter : ∃ c t, s = c :: t ∧ c.isAlpha = true
  /-- it is of letters, digits and three more characters -/
  all : ∀ c ∈ s, isSchemeChar c = true
  /-- it is in lower case -/
  lower : s.map Char.toLower = s

theorem isSchemeChar_ascii {c : Char} (h : isSchemeChar c = true) : c.toNat < 128 := by
  simp only [isSchemeChar, Char.isAlphanum, Bool.or_eq_true, decide_eq_true_eq] at h
  obtain (((halpha | hdigit) | rfl) | rfl) | rfl := h
  · obtain hupper | hlower := Bool.or_eq_true_iff.1 halpha
    · obtain ⟨_, hle⟩ := of_decide_eq_true hupper
      exact Nat.lt_of_le_of_lt (UInt32.le_iff_toNat_le.1 hle) (by decide)
    · obtain ⟨_, hle⟩ := Bool.and_eq_true_iff.1 hlower
      exact Nat.lt_of_le_of_lt (UInt32.le_iff_toNat_le.1 (of_decide_eq_true hle)) (by decide)
  · obtain ⟨_, hle⟩ := Bool.and_eq_true_iff.1 hdigit
    exact Nat.lt_of_le_of_lt (UInt32.le_iff_toNat_le.1 (of_decide_eq_true hle)) (by decide)
  · decide
  · decide
  · decide

theorem toLower_schemeChar {c : Char} (h : isSchemeChar c = true) :
    isSchemeChar c.toLower = true ∧ c.toLower.toLower = c.toLower ∧
      (c.isAlpha = true → c.toLower.isAlpha = true) := by
  have hall : ∀ n < 128, isSchemeChar (Char.ofNat n).toLower = isSchemeChar (Char.ofNat n) ∧
      (Char.ofNat n).toLower.toLower = (Char.ofNat n).toLower ∧
      ((Char.ofNat n).isAlpha = true → (Char.ofNat n).toLower.isAlpha = true) := by decide
  obtain ⟨hchar, hlower, halpha⟩ := forall_ascii (fun c => isSchemeChar c.toLower = isSchemeChar c ∧
    c.toLower.toLower = c.toLower ∧ (c.isAlpha = true → c.toLower.isAlpha = true)) hall
    (isSchemeChar_ascii h)
  exact ⟨hchar.trans h, hlower, halpha⟩

/-- The scheme of a URL that was read. -/
theorem isScheme_of_scheme? {s scheme rest : List Char} (h : scheme? s = some (scheme, rest)) :
    IsScheme scheme := by
  unfold scheme? at h
  dsimp only at h
  split at h
  · rename_i first more _ hname _
    split at h
    · rename_i halpha
      obtain ⟨rfl, _⟩ := Prod.mk.inj (Option.some.inj h)
      have hall : ∀ c ∈ s.takeWhile isSchemeChar, isSchemeChar c = true := fun c hc =>
        List.all_eq_true.1 (List.all_takeWhile) c hc
      refine ⟨⟨first.toLower, more.map Char.toLower, by rw [hname]; rfl, ?_⟩, ?_, ?_⟩
      · exact (toLower_schemeChar (hall first (hname ▸ List.mem_cons_self))).2.2 halpha
      · intro c hc
        obtain ⟨d, hd, rfl⟩ := List.mem_map.1 hc
        exact (toLower_schemeChar (hall d hd)).1
      · rw [List.map_map]
        exact List.map_congr_left fun c hc => (toLower_schemeChar (hall c hc)).2.1
    · cases h
  · cases h

theorem scheme?_append {scheme : List Char} (h : IsScheme scheme) (rest : List Char) :
    scheme? (scheme ++ ':' :: rest) = some (scheme, rest) := by
  obtain ⟨c, t, rfl, hc⟩ := h.letter
  have hname : (c :: t ++ ':' :: rest).takeWhile isSchemeChar = c :: t := by
    rw [List.takeWhile_append_of_pos h.all, List.takeWhile_cons_of_neg (by decide), List.append_nil]
  unfold scheme?
  simp only [hname, List.drop_left, hc, if_true, h.lower]

/-! ## Query and fragment -/

/-- A text whose beginning holds no query and no fragment. -/
theorem cutTail_append {front : List Char} (h : ∀ c ∈ front, c ≠ '#' ∧ c ≠ '?') (back : List Char) :
    cutTail (front ++ back) = (front ++ (cutTail back).1, (cutTail back).2) := by
  have hhash : ∀ c ∈ front, decide (c ≠ '#') = true := fun c hc => by simp [(h c hc).1]
  have hmark : ∀ c ∈ front, decide (c ≠ '?') = true := fun c hc => by simp [(h c hc).2]
  have hdrop : ∀ (l : List Char) n, (front ++ l).drop (front.length + n) = l.drop n := fun l n => by
    rw [List.drop_append]
    simp
  unfold cutTail
  simp only [List.takeWhile_append_of_pos hhash, List.takeWhile_append_of_pos hmark,
    List.length_append, hdrop]

/-- A text without a query and a fragment. -/
theorem cutTail_of_plain {s : List Char} (h : ∀ c ∈ s, c ≠ '#' ∧ c ≠ '?') :
    cutTail s = (s, none, none) := by
  have hnil : cutTail [] = ([], none, none) := rfl
  have happend := cutTail_append h []
  rwa [List.append_nil, hnil, List.append_nil] at happend

/-- What comes before query and fragment is a part of the text, and holds neither mark. -/
theorem cutTail_fst (s : List Char) :
    (cutTail s).1.Sublist s ∧ ∀ c ∈ (cutTail s).1, c ≠ '#' ∧ c ≠ '?' := by
  unfold cutTail
  refine ⟨(List.takeWhile_sublist _).trans (List.takeWhile_sublist _), fun c hc => ⟨?_, ?_⟩⟩
  · have hfront := (List.takeWhile_sublist _).subset hc
    simpa using List.all_eq_true.1 List.all_takeWhile c hfront
  · simpa using List.all_eq_true.1 List.all_takeWhile c hc

/-! ## URLs of the web -/

/-- The schemes of web servers. -/
def IsWeb (scheme : List Char) : Prop := scheme ∈ ["http".toList, "https".toList]

theorem IsWeb.isScheme {scheme : List Char} (h : IsWeb scheme) : IsScheme scheme := by
  obtain rfl | h := List.mem_cons.1 h
  · exact ⟨⟨_, _, rfl, by decide⟩, List.all_eq_true.1 (by decide), by decide⟩
  · obtain rfl := List.mem_singleton.1 h
    exact ⟨⟨_, _, rfl, by decide⟩, List.all_eq_true.1 (by decide), by decide⟩

instance (scheme : List Char) : Decidable (IsWeb scheme) := inferInstanceAs (Decidable (_ ∈ _))

theorem IsWeb.isSpecial {scheme : List Char} (h : IsWeb scheme) : isSpecial scheme = true := by
  have hall : ∀ s ∈ ["http".toList, "https".toList], FlowRuns.Url.isSpecial s = true := by decide
  exact hall scheme h

theorem parseSpecial_spec {scheme s : List Char} {authority : Option Authority} {path : Path}
    (h : parseSpecial scheme s = .ok (authority, path)) :
    let after := s.dropWhile (isSlash true)
    let front := after.takeWhile fun c => !endsAuthority true c
    (∃ a left, Authority.parse scheme front false = .ok (a, left) ∧ authority = some a) ∧
      path = pathAfterAuthority true (after.drop front.length) := by
  unfold parseSpecial at h
  simp only [bind, Except.bind] at h
  split at h
  · cases h
  · rename_i parts hparts
    obtain ⟨a, left⟩ := parts
    obtain ⟨rfl, rfl⟩ := Prod.mk.inj (Except.ok.inj h)
    exact ⟨⟨a, left, hparts, rfl⟩, rfl⟩

/-- A URL has the scheme that its text begins with, and the parts that follow from what comes after. -/
theorem parse_spec {s : List Char} {u : Url} (h : parse s = .ok u) :
    ∃ rest, scheme? (clean s) = some (u.scheme, rest) ∧
      (IsWeb u.scheme → parseSpecial u.scheme (cutTail rest).1 = .ok (u.authority, u.path) ∧
        u.query = (cutTail rest).2.1.map (percentEncode .specialQuery)) := by
  unfold parse at h
  cases hs : scheme? (clean s) with
  | none => rw [hs] at h; cases h
  | some parts =>
    obtain ⟨scheme, rest⟩ := parts
    rw [hs] at h
    simp only [bind, Except.bind] at h
    by_cases hfile : scheme = "file".toList
    · rw [if_pos hfile] at h
      split at h
      · cases h
      · obtain rfl := Except.ok.inj h
        have hnot : ¬ IsWeb "file".toList := by decide
        exact ⟨rest, rfl, fun hweb => absurd (hfile ▸ hweb) hnot⟩
    · rw [if_neg hfile] at h
      cases hspecial : isSpecial scheme with
      | true =>
        rw [if_pos hspecial] at h
        split at h
        · cases h
        · rename_i parts hparts
          obtain rfl := Except.ok.inj h
          exact ⟨rest, rfl, fun _ => ⟨hparts, by rw [if_pos hspecial]⟩⟩
      | false =>
        rw [if_neg (by simp [hspecial])] at h
        split at h
        · cases h
        · obtain rfl := Except.ok.inj h
          refine ⟨rest, rfl, fun hweb => ?_⟩
          rw [IsWeb.isSpecial hweb] at hspecial
          cases hspecial

/-- What a URL of the web was read as: an authority, and segments that stay. -/
theorem authority_and_path_of_parse {s : List Char} {u : Url} (h : parse s = .ok u)
    (hweb : IsWeb u.scheme) :
    ∃ a ss, u.authority = some a ∧ a.IsRead u.scheme ∧ u.path = .segments ss ∧ ∀ s ∈ ss, Settled s := by
  obtain ⟨rest, _, hparts⟩ := parse_spec h
  obtain ⟨⟨a, left, ha, hauthority⟩, hpath⟩ := parseSpecial_spec (hparts hweb).1
  have hread := Authority.parse_spec hweb.isSpecial ha
  refine ⟨a, ?_⟩
  generalize (((cutTail rest).1.dropWhile (isSlash true)).drop _) = s at hpath
  rw [hpath]
  cases s with
  | nil => exact ⟨_, hauthority, hread, rfl, by simp [Settled.nil]⟩
  | cons c s => exact ⟨_, hauthority, hread, rfl, settled_resolve (by simp) fun t ht => mem_splitPath ht⟩

/-! ## Reading once more -/

theorem pathAfterAuthority_slash (s : List Char) :
    pathAfterAuthority true ('/' :: s) = .segments (segmentsOf true s) := rfl

/-- The text of segments, each after its slash, is split into them. -/
theorem splitPath_segments {ss : List (List Char)} (hss : ∀ s ∈ ss, Settled s) (tail : List Char) :
    ∃ s, ss.flatMap ('/' :: ·) ++ '/' :: tail = '/' :: s ∧
      splitPath true s = ss ++ splitPath true tail := by
  induction ss with
  | nil => exact ⟨tail, rfl, rfl⟩
  | cons t ss ih =>
    obtain ⟨s, htext, hsplit⟩ := ih fun u hu => hss u (List.mem_cons_of_mem t hu)
    refine ⟨t ++ '/' :: s, ?_, ?_⟩
    · rw [List.flatMap_cons, List.append_assoc, htext]
      rfl
    · rw [splitPath_append (hss t List.mem_cons_self).noSlash (by decide), hsplit]
      rfl

/-- A character that is read as it is, whether or not it comes before a query. -/
def isPlain (c : Char) : Bool := isUnbroken c && c ≠ '#' && c ≠ '?'

theorem isPlain_iff {c : Char} : isPlain c = true ↔ isUnbroken c = true ∧ c ≠ '#' ∧ c ≠ '?' := by
  simp [isPlain, and_assoc]

theorem IsScheme.isPlain {scheme : List Char} (h : IsScheme scheme) :
    (∃ d, scheme.head? = some d ∧ isEndBlank d = false) ∧ ∀ d ∈ scheme, isPlain d = true := by
  have hall : ∀ n < 128, isSchemeChar (Char.ofNat n) = true →
      isEndBlank (Char.ofNat n) = false ∧ Url.isPlain (Char.ofNat n) = true := by decide
  have hchar : ∀ d ∈ scheme, isEndBlank d = false ∧ Url.isPlain d = true := fun d hd =>
    forall_ascii (fun d => isSchemeChar d = true → isEndBlank d = false ∧ Url.isPlain d = true) hall
      (isSchemeChar_ascii (h.all d hd)) (h.all d hd)
  obtain ⟨c, rest, rfl, _⟩ := h.letter
  exact ⟨⟨c, rfl, (hchar c List.mem_cons_self).1⟩, fun d hd => (hchar d hd).2⟩

theorem isPlain_of_isBare {c : Char} (h : isBare c = true) : isPlain c = true := by
  simp [isPlain, ne_of_isBare h (d := '\t') (by decide), ne_of_isBare h (d := '\n') (by decide),
    ne_of_isBare h (d := '\r') (by decide), ne_of_isBare h (d := '#') (by decide),
    ne_of_isBare h (d := '?') (by decide)]

theorem Settled.isPlain {s : List Char} (h : Settled s) {c : Char} (hc : c ∈ s) :
    isPlain c = true := by
  have hall : ∀ n < 128, PercentSet.path (Char.ofNat n) = false →
      Url.isPlain (Char.ofNat n) = true := by decide
  obtain ⟨hascii, hset⟩ := h.spared c hc
  exact forall_ascii (fun c => PercentSet.path c = false → Url.isPlain c = true) hall hascii hset

theorem isPlain_of_mem_segments {ss : List (List Char)} (hss : ∀ s ∈ ss, Settled s) {c : Char}
    (hc : c ∈ ss.flatMap ('/' :: ·)) : isPlain c = true := by
  obtain ⟨s, hs, hc⟩ := List.mem_flatMap.1 hc
  obtain rfl | hc := List.mem_cons.1 hc
  · decide
  · exact (hss s hs).isPlain hc

/-- A URL has the scheme that its text begins with. -/
theorem scheme_of_parse {scheme rest : List Char} {u : Url} (hscheme : IsScheme scheme)
    (h : parse (scheme ++ ':' :: rest) = .ok u) : u.scheme = scheme := by
  obtain ⟨⟨first, hfirst, hblank⟩, hplain⟩ := hscheme.isPlain
  obtain ⟨rest', hrest, _⟩ := parse_spec h
  rw [clean_append hfirst hblank (fun d hd => (isPlain_iff.1 (hplain d hd)).1) (by decide) (by decide),
    scheme?_append hscheme] at hrest
  exact (Prod.mk.inj (Option.some.inj hrest)).1.symm

/-- A text of plain characters after the scheme of a URL of the web is read with what follows it. -/
theorem parse_plain_append {scheme middle tail : List Char} (hweb : IsWeb scheme)
    (hmiddle : ∀ c ∈ middle, isPlain c = true) {u : Url}
    (h : parse (scheme ++ ':' :: middle ++ '/' :: tail) = .ok u) :
    parseSpecial scheme (middle ++ '/' :: (cutTail (cleanEnd tail)).1) = .ok (u.authority, u.path) ∧
      u.query = (cutTail (cleanEnd tail)).2.1.map (percentEncode .specialQuery) := by
  obtain ⟨⟨first, hfirst, hblank⟩, hplain⟩ := hweb.isScheme.isPlain
  have hhead : (scheme ++ ':' :: middle).head? = some first := by simp [hfirst]
  have hfront : ∀ c ∈ scheme ++ ':' :: middle, isPlain c = true := by
    intro c hc
    obtain hc | hc := List.mem_append.1 hc
    · exact hplain c hc
    · obtain rfl | hc := List.mem_cons.1 hc
      · decide
      · exact hmiddle c hc
  have hscheme : scheme? (clean (scheme ++ ':' :: middle ++ '/' :: tail)) =
      some (scheme, middle ++ '/' :: cleanEnd tail) := by
    rw [clean_append hhead hblank (fun c hc => (isPlain_iff.1 (hfront c hc)).1) (by decide)
      (by decide), List.append_assoc]
    exact scheme?_append hweb.isScheme _
  obtain ⟨rest, hrest, hparts⟩ := parse_spec h
  obtain ⟨rfl, rfl⟩ := Prod.mk.inj (Option.some.inj (hscheme.symm.trans hrest))
  have hmarks : ∀ c ∈ middle ++ ['/'], c ≠ '#' ∧ c ≠ '?' := by
    intro c hc
    obtain hc | hc := List.mem_append.1 hc
    · exact (isPlain_iff.1 (hmiddle c hc)).2
    · rw [List.mem_singleton.1 hc]
      decide
  have hcut := cutTail_append hmarks (cleanEnd tail)
  rw [List.append_assoc, List.singleton_append] at hcut
  rw [hcut] at hparts
  obtain ⟨hspecial, hquery⟩ := hparts hweb
  rw [List.append_assoc] at hspecial
  exact ⟨hspecial, hquery⟩

/-- Behind its two slashes, a text with a bare authority falls into that and what comes from the next
slash on. -/
theorem dropWhile_slashes_bare {authority : List Char} (h : Bare authority) (s : List Char) :
    ('/' :: '/' :: (authority ++ '/' :: s)).dropWhile (isSlash true) = authority ++ '/' :: s ∧
      (authority ++ '/' :: s).takeWhile (fun c => !endsAuthority true c) = authority := by
  constructor
  · rw [List.dropWhile_cons_of_pos (by decide), List.dropWhile_cons_of_pos (by decide)]
    obtain ⟨c, cs, rfl⟩ := List.exists_cons_of_ne_nil h.ne_nil
    have hc := endsAuthority_of_isBare (h.all c List.mem_cons_self)
    simp only [endsAuthority, Bool.or_eq_false_iff] at hc
    exact List.dropWhile_cons_of_neg (by simp [hc.1.1])
  · rw [List.takeWhile_append_of_pos fun c hc => by
      rw [endsAuthority_of_isBare (h.all c hc)]; rfl,
      List.takeWhile_cons_of_neg (by decide), List.append_nil]

/-- **A text that goes on from a URL of the web**: authority and segments are read as they were; what
follows them is cut at its query, split and resolved after them. -/
theorem path_of_parse_append {scheme authority : List Char} (hweb : IsWeb scheme)
    (hauthority : Bare authority) {ss : List (List Char)} (hss : ∀ s ∈ ss, Settled s)
    {tail : List Char} {u : Url}
    (h : parse (scheme ++ ':' :: '/' :: '/' :: (authority ++ ss.flatMap ('/' :: ·)) ++ '/' :: tail) =
      .ok u) :
    u.path = .segments (resolve keep ss.reverse (splitPath true (cutTail (cleanEnd tail)).1)) ∧
      u.query = (cutTail (cleanEnd tail)).2.1.map (percentEncode .specialQuery) := by
  have hmiddle : ∀ c ∈ '/' :: '/' :: (authority ++ ss.flatMap ('/' :: ·)), isPlain c = true := by
    intro c hc
    simp only [List.mem_cons, List.mem_append] at hc
    obtain rfl | rfl | hc | hc := hc
    · decide
    · decide
    · exact isPlain_of_isBare (hauthority.all c hc)
    · exact isPlain_of_mem_segments hss hc
  obtain ⟨hspecial, hquery⟩ := parse_plain_append hweb hmiddle h
  refine ⟨?_, hquery⟩
  obtain ⟨_, hpath⟩ := parseSpecial_spec hspecial
  -- what comes after the authority is one text, whether or not there are segments before the tail
  obtain ⟨s, htext, hsplit⟩ := splitPath_segments hss (cutTail (cleanEnd tail)).1
  obtain ⟨hafter, hfront⟩ := dropWhile_slashes_bare hauthority s
  have hencoded : ss.map (percentEncode .path) = ss := by
    rw [List.map_congr_left fun t ht => (hss t ht).encoded, List.map_id']
  rw [List.cons_append, List.cons_append, List.append_assoc, htext, hafter, hfront, List.drop_left]
    at hpath
  rw [hpath, pathAfterAuthority_slash, segmentsOf, hsplit,
    resolve_append (fun t ht => (hss t ht).noDots), hencoded, List.append_nil]

end FlowRuns.Url
