import FlowRuns.Proofs.Url.Address

/-!
# Hosts as text

A host that was read is written in one way. For an address what is written is always read as the same address;
for a domain it is if its labels are in lower-case ASCII and none is an encoded one, so that nothing is left to
be spelled in another way.

* `Host.IsRead`, `Host.parse_spec` — what a host is like that was read.
* `Host.isOrdinary` — addresses and plain domains.
* `Host.IsRead.parse_text` — **an ordinary host** is read as itself.
-/

namespace FlowRuns.Url

open Text Text.Form

/-! ## Domains -/

/-- A domain that was read holds no character that none may hold. -/
theorem domainToAscii_allowed {s name : List Char} (h : domainToAscii? s = some name) :
    ∀ c ∈ name, forbiddenInDomain c = false := by
  unfold domainToAscii? at h
  obtain ⟨labels, -, h⟩ := Option.bind_eq_some_iff.1 h
  dsimp only at h
  split at h
  next => cases h
  next hallowed =>
    obtain rfl := Option.some.inj h
    rw [Bool.not_eq_true, List.any_eq_false] at hallowed
    exact fun c hc => Bool.not_eq_true _ ▸ hallowed c hc

/-- Whether a host is an ordinary one: an address, or a domain in lower-case ASCII none of whose labels is an
encoded one. -/
def Host.isOrdinary : Host → Bool
  | domain name => name.all (fun c => isAscii c && c.toLower = c) &&
      (parts '.' name).all (!labelMark.isPrefixOf ·)
  | ipv4 _ => true
  | ipv6 _ => true

theorem Host.isOrdinary_domain_iff {name : List Char} : (Host.domain name).isOrdinary = true ↔
    (∀ c ∈ name, isAscii c = true ∧ c.toLower = c) ∧
      ∀ label ∈ parts '.' name, labelMark.isPrefixOf label = false := by
  simp [Host.isOrdinary]

/-- A label that reads as it is spelled. -/
def Label.plain (s : List Char) : Label := ⟨s, s⟩

/-- The labels of an ordinary domain read as they are spelled. -/
theorem labels_ordinary {name : List Char} (h : (Host.domain name).isOrdinary = true) :
    labels? name = some ((parts '.' name).map Label.plain) := by
  obtain ⟨hname, hmarks⟩ := Host.isOrdinary_domain_iff.1 h
  have hspelled : name.mapM standsFor? = some (name.map ([·])) :=
    mapM_eq_some_map fun c hc => by rw [standsFor?, if_pos (hname c hc).1, (hname c hc).2]
  have hcomposed : composed name = name := by
    rw [composed, if_pos]
    exact List.all_eq_true.2 fun c hc => (hname c hc).1
  have hascii : ∀ label ∈ parts '.' name, label.all isAscii = true := by
    intro label hlabel
    refine List.all_eq_true.2 fun c hc => (hname c ?_).1
    have hmem : c ∈ ['.'].intercalate (parts '.' name) := mem_intercalate_of_mem hlabel hc
    rwa [join_parts] at hmem
  have hlabels : (parts '.' name).mapM label? = some ((parts '.' name).map Label.plain) := by
    refine mapM_eq_some_map fun label hlabel => ?_
    rw [label?, if_neg (by simp [hmarks label hlabel]), if_pos (hascii label hlabel), Label.plain]
  -- no character of ASCII is written from right to left, so that directions do not matter
  have hright : ((parts '.' name).map Label.plain).any (·.text.any isRightward) = false := by
    simp only [List.any_map, List.any_eq_false, Function.comp_apply, Bool.not_eq_true]
    intro label hlabel c hc
    simp [isRightward, List.all_eq_true.1 (hascii label hlabel) c hc]
  rw [labels?, hspelled]
  simp only [Option.bind_eq_bind, Option.bind_some]
  rw [← List.flatMap_def, List.flatMap_singleton', hcomposed, hlabels]
  simp only [Option.bind_some, hright, Bool.false_and, Bool.false_eq_true, if_false]

/-- An ordinary domain is spelled as it is. -/
theorem domainToAscii_ordinary {name : List Char} (h : (Host.domain name).isOrdinary = true)
    (hallowed : ∀ c ∈ name, forbiddenInDomain c = false) : domainToAscii? name = some name := by
  have hascii : ".".toList.intercalate (((parts '.' name).map Label.plain).map (·.ascii)) = name := by
    rw [List.map_map]
    change ['.'].intercalate ((parts '.' name).map id) = name
    rw [List.map_id, join_parts]
  have hnone : name.any forbiddenInDomain = false :=
    List.any_eq_false.2 fun c hc => by simp [hallowed c hc]
  rw [domainToAscii?, labels_ordinary h]
  simp only [Option.bind_eq_bind, Option.bind_some, hascii, hnone, Bool.false_eq_true, if_false]

/-! ## Hosts -/

/-- What a host is like that was read in a special URL. -/
def Host.IsRead : Host → Prop
  | domain name => name ≠ [] ∧ (∀ c ∈ name, forbiddenInDomain c = false) ∧ endsInNumber name = false
  | ipv4 a => a < byteWeight 4
  | ipv6 ps => ps.length = 8 ∧ ∀ p ∈ ps, p < 65536

theorem Host.parse_spec {s : List Char} {host : Host} (h : Host.parse true s = .ok host) :
    host.IsRead := by
  unfold Host.parse at h
  split at h
  next =>
    split at h
    next =>
      split at h
      next ps hps =>
        obtain rfl := Except.ok.inj h
        exact ipv6?_spec hps
      next => cases h
    next => cases h
  next =>
    rw [if_pos rfl] at h
    split at h
    next => cases h
    next => cases h
    next name hne hname =>
      split at h
      next =>
        split at h
        next a ha =>
          obtain rfl := Except.ok.inj h
          exact ipv4?_lt ha
        next => cases h
      next hnumber =>
        obtain rfl := Except.ok.inj h
        obtain ⟨cs, -, hcs⟩ := Option.bind_eq_some_iff.1 hname
        exact ⟨hne, domainToAscii_allowed hcs, by simpa using hnumber⟩

/-- The reading of a domain that is spelled as it is. -/
theorem Host.parse_of_spelled {name : List Char} (hne : name ≠ [])
    (hspelled : domainToAscii? name = some name) :
    Host.parse true name =
      if endsInNumber name then
        match ipv4? name with
        | some a => .ok (.ipv4 a)
        | none => .error .badIpv4
      else .ok (.domain name) := by
  have hmem {c : Char} (hc : forbiddenInDomain c = true) : c ∉ name := fun h => by
    rw [domainToAscii_allowed hspelled c h] at hc
    cases hc
  have hescape : hasEscape name = false := hasEscape_eq_false (hmem (by decide))
  have hdecode : charsOfBytes? (percentDecode name) >>= domainToAscii? = some name := by
    rw [percentDecode_eq_bytes hescape, charsOfBytes?_bytes]
    exact hspelled
  unfold Host.parse
  split
  next rest => exact absurd List.mem_cons_self (hmem (by decide))
  next =>
    rw [if_pos rfl, hdecode]
    split
    next h => cases h
    next h => exact absurd (Option.some.inj h) hne
    next name' _ h =>
      obtain rfl := Option.some.inj h
      rfl

/-- The text of an address of four bytes is spelled as it is, and ends in a number. -/
theorem ipv4_text_spelled (a : Nat) :
    domainToAscii? (Host.ipv4 a).text = some (Host.ipv4 a).text ∧
      endsInNumber (Host.ipv4 a).text = true := by
  have hchar : ∀ c ∈ (Host.ipv4 a).text,
      isAscii c = true ∧ c.toLower = c ∧ forbiddenInDomain c = false ∧ c ≠ 'x' := by
    have hdigit : ∀ k < 10, isAscii (Nat.digitChar k) = true ∧
        (Nat.digitChar k).toLower = Nat.digitChar k ∧
        forbiddenInDomain (Nat.digitChar k) = false ∧ Nat.digitChar k ≠ 'x' := by decide
    intro c hc
    obtain rfl | ⟨w, hw, hc⟩ := mem_intercalate hc
    · decide
    · obtain ⟨n, -, rfl⟩ := List.mem_map.1 hw
      obtain ⟨k, hk, rfl⟩ := mem_toDigits (by decide) hc
      exact hdigit k hk
  have hmark : ∀ label ∈ parts '.' (Host.ipv4 a).text, labelMark.isPrefixOf label = false := by
    intro label hlabel
    rw [parts_ipv4_text] at hlabel
    refine Bool.eq_false_iff.2 fun hprefix => ?_
    have hx : 'x' ∈ label := (List.isPrefixOf_iff_prefix.1 hprefix).subset (by decide)
    exact (hchar 'x' (mem_intercalate_of_mem hlabel hx)).2.2.2 rfl
  refine ⟨domainToAscii_ordinary ?_ fun c hc => (hchar c hc).2.2.1, ?_⟩
  · exact Host.isOrdinary_domain_iff.2 ⟨fun c hc => ⟨(hchar c hc).1, (hchar c hc).2.1⟩, hmark⟩
  · have hdigits : (Nat.toDigits 10 (a % 256)).all Char.isDigit = true :=
      List.all_eq_true.2 fun c hc => Nat.isDigit_of_mem_toDigits (by decide) (by decide) hc
    have hlast : (hostParts (Host.ipv4 a).text).getLast? = some (Nat.toDigits 10 (a % 256)) := by
      rw [hostParts_ipv4_text]
      rfl
    simp [endsInNumber, hlast, hdigits, Nat.toDigits_ne_nil]

theorem ipv4_text_ne_nil (a : Nat) : (Host.ipv4 a).text ≠ [] := fun hnil => by
  have hnumber := (ipv4_text_spelled a).2
  rw [hnil] at hnumber
  exact absurd hnumber (by decide)

/-- **An ordinary host** that was read is read as itself. -/
theorem Host.IsRead.parse_text {host : Host} (h : host.IsRead) (hordinary : host.isOrdinary = true) :
    Host.parse true host.text = .ok host := by
  cases host with
  | domain name =>
    obtain ⟨hne, hallowed, hnumber⟩ := h
    rw [Host.text, Host.parse_of_spelled hne (domainToAscii_ordinary hordinary hallowed),
      if_neg (by simp [hnumber])]
  | ipv4 a =>
    obtain ⟨hspelled, hnumber⟩ := ipv4_text_spelled a
    rw [Host.parse_of_spelled (ipv4_text_ne_nil a) hspelled, if_pos hnumber, ipv4?_text h]
  | ipv6 ps =>
    have htext : (Host.ipv6 ps).text = '[' :: (ipv6Text ps ++ [']']) := rfl
    rw [htext, Host.parse, List.getLast?_concat, List.dropLast_concat, ipv6?_text h.1 h.2]
    rfl

end FlowRuns.Url
