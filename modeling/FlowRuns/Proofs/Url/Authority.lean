import Mathlib.Data.List.TakeWhile
import FlowRuns.Proofs.Url.Host

/-!
# Authorities as text

The text of the authority of a URL holds no character that would end it, or that would be dropped, if
the URL were read once more. What is read then is the same authority, if its host is an ordinary one.

* `isBare` — such characters.
* `Host.IsRead.text_bare`, `Authority.IsRead.text_bare` — the texts of hosts and authorities that were read.
* `cutUser_userText`, `Host.IsRead.cutHost_text`, `port?_portText` — where the text of an authority is cut.
* `Authority.IsRead.parse_text` — **an authority with an ordinary host** is read as itself.
-/

namespace FlowRuns.Url

open Text

/-- The characters that end an authority, or that no text of a URL keeps. -/
def marks : List Char := ['/', '\\', '?', '#', '\t', '\n', '\r']

/-- A character that ends no authority and is dropped from no text. -/
def isBare (c : Char) : Bool := !marks.contains c

theorem ne_of_isBare {c d : Char} (hc : isBare c = true) (hd : d ∈ marks) : c ≠ d := by
  rintro rfl
  simp [isBare, hd] at hc

theorem endsAuthority_of_isBare {c : Char} (h : isBare c = true) : endsAuthority true c = false := by
  simp [endsAuthority, isSlash, ne_of_isBare h (d := '/') (by decide),
    ne_of_isBare h (d := '\\') (by decide), ne_of_isBare h (d := '?') (by decide),
    ne_of_isBare h (d := '#') (by decide)]

/-- A text of such characters, not empty. -/
structure Bare (s : List Char) : Prop where
  /-- there is a character -/
  ne_nil : s ≠ []
  /-- all are such -/
  all : ∀ c ∈ s, isBare c = true

theorem isBare_of_mem_toDigits {b n : Nat} (hb : 1 < b) (hle : b ≤ 16) {c : Char}
    (h : c ∈ Nat.toDigits b n) : isBare c = true := by
  have hall : ∀ k < 16, isBare (Nat.digitChar k) = true := by decide
  obtain ⟨k, hk, rfl⟩ := mem_toDigits hb h
  exact hall k (Nat.lt_of_lt_of_le hk hle)

/-! ## Hosts -/

/-- What may stand in a domain is bare. -/
theorem isBare_of_not_forbidden {c : Char} (h : forbiddenInDomain c = false) : isBare c = true := by
  have hall : ∀ d ∈ marks, forbiddenInDomain d = true := List.all_eq_true.1 (by decide)
  by_cases hc : c ∈ marks
  · rw [hall c hc] at h
    cases h
  · simp [isBare, hc]

/-- The text of a host that was read. -/
theorem Host.IsRead.text_bare {host : Host} (h : host.IsRead) : Bare host.text := by
  cases host with
  | domain name => exact ⟨h.1, fun c hc => isBare_of_not_forbidden (h.2.1 c hc)⟩
  | ipv4 a =>
    have hallowed := domainToAscii_allowed (ipv4_text_spelled a).1
    exact ⟨ipv4_text_ne_nil a, fun c hc => isBare_of_not_forbidden (hallowed c hc)⟩
  | ipv6 ps =>
    refine ⟨by simp [Host.text], fun c hc => ?_⟩
    simp only [Host.text, List.mem_append, List.mem_singleton] at hc
    obtain (rfl | hc) | rfl := hc
    · decide
    · obtain rfl | ⟨p, hc⟩ := mem_ipv6Text hc
      · decide
      · exact isBare_of_mem_toDigits (by decide) (by decide) hc
    · decide

/-! ## Authorities -/

/-- What the authority of a special URL is like that was read. -/
structure Authority.IsRead (scheme : List Char) (a : Authority) : Prop where
  /-- the user is encoded -/
  user : ∃ user, a.user = percentEncode .userInfo user
  /-- so is the password -/
  password : ∃ password, a.password = percentEncode .userInfo password
  /-- the host was read -/
  host : a.host.IsRead
  /-- the port is in the range of ports, and not the one of the scheme -/
  port : ∀ n, a.port = some n → n ≤ 65535 ∧ defaultPort scheme ≠ some n

theorem port?_spec {scheme s rest : List Char} {port : Option Nat} (h : port? scheme s = .ok (port, rest))
    {n : Nat} (hn : port = some n) : n ≤ 65535 ∧ defaultPort scheme ≠ some n := by
  subst hn
  unfold port? at h
  split at h
  next text =>
    dsimp only at h
    split at h
    next => cases h
    next =>
      split at h
      next => cases h
      next =>
        split at h
        next m hm =>
          split at h
          next => cases h
          next hle =>
            split at h
            next => cases h
            next hdefault =>
              obtain rfl : m = n := Option.some.inj (Prod.mk.inj (Except.ok.inj h)).1
              exact ⟨Nat.le_of_not_lt hle, hdefault⟩
        next => cases h
  next => cases h

theorem Authority.parse_spec {scheme s rest : List Char} {atEnd : Bool} {a : Authority}
    (hspecial : isSpecial scheme = true) (h : Authority.parse scheme s atEnd = .ok (a, rest)) :
    a.IsRead scheme := by
  unfold Authority.parse at h
  simp only [hspecial, Bool.true_or, Bool.and_true, bind, Except.bind, pure, Except.pure] at h
  split at h
  · cases h
  · split at h
    · cases h
    · rename_i host hhost
      split at h
      · cases h
      · rename_i parts hport
        obtain ⟨rfl, -⟩ := Prod.mk.inj (Except.ok.inj h)
        exact ⟨⟨_, rfl⟩, ⟨_, rfl⟩, Host.parse_spec hhost, fun n hn => port?_spec hport hn⟩

theorem isBare_of_mem_userInfo {c : Char} {s : List Char} (h : c ∈ percentEncode .userInfo s) :
    isBare c = true := by
  have hall : ∀ d ∈ marks, PercentSet.userInfo d = true := List.all_eq_true.1 (by decide)
  obtain ⟨_, hc⟩ := mem_percentEncode PercentSet.userInfo_sparesEscapes h
  by_cases hmark : c ∈ marks
  · rw [hall c hmark] at hc
    cases hc
  · simp [isBare, hmark]

theorem isBare_of_mem_userText {user password : List Char} {c : Char}
    (hc : c ∈ userText (percentEncode .userInfo user) (percentEncode .userInfo password)) :
    isBare c = true := by
  unfold userText at hc
  split at hc
  · cases hc
  · simp only [List.mem_append, List.mem_singleton] at hc
    obtain (hc | hc) | rfl := hc
    · exact isBare_of_mem_userInfo hc
    · split at hc
      · cases hc
      · obtain rfl | hc := List.mem_cons.1 hc
        · decide
        · exact isBare_of_mem_userInfo hc
    · decide

/-- **The text of an authority** that was read with a special scheme. -/
theorem Authority.IsRead.text_bare {scheme : List Char} {a : Authority} (h : a.IsRead scheme) : Bare a.text := by
  obtain ⟨⟨user, huser⟩, ⟨password, hpassword⟩, hhost, -⟩ := h
  have hbare := hhost.text_bare
  unfold Authority.text
  rw [huser, hpassword]
  refine ⟨by simp [hbare.ne_nil], fun c hc => ?_⟩
  rw [List.mem_append, List.mem_append] at hc
  obtain (hc | hc) | hc := hc
  · exact isBare_of_mem_userText hc
  · exact hbare.all c hc
  · split at hc
    · obtain rfl | hc := List.mem_cons.1 hc
      · decide
      · exact isBare_of_mem_toDigits (by decide) (by decide) hc
    · cases hc

/-! ## Reading once more -/

/-- User and password end at the last `@`. -/
theorem cutUser_append (s : List Char) {t : List Char} (h : '@' ∉ t) :
    cutUser (s ++ '@' :: t) = (some s, t) := by
  have hrest : ∀ c ∈ t.reverse, decide (c ≠ '@') = true := fun c hc => by
    have hne : c ≠ '@' := fun heq => h (heq ▸ List.mem_reverse.1 hc)
    exact decide_eq_true hne
  have hreverse : (s ++ '@' :: t).reverse = t.reverse ++ '@' :: s.reverse := by simp
  rw [cutUser, if_pos (by simp), hreverse, List.dropWhile_append_of_pos hrest,
    List.takeWhile_append_of_pos hrest, List.dropWhile_cons_of_neg (by simp),
    List.takeWhile_cons_of_neg (by simp)]
  simp

theorem cutUser_userText (user password : List Char) {t : List Char} (hcolon : ':' ∉ user) (hat : '@' ∉ t) :
    ∃ info, cutUser (userText user password ++ t) = (info, t) ∧
      Form.cut ':' (info.getD []) = (user, password) := by
  unfold userText
  split
  next hnone =>
    obtain ⟨rfl, rfl⟩ : user = [] ∧ password = [] := by simpa using hnone
    exact ⟨none, by rw [List.nil_append, cutUser, if_neg (by simpa using hat)], rfl⟩
  next =>
    refine ⟨some (user ++ if password.isEmpty then [] else ':' :: password), ?_, ?_⟩
    · rw [List.append_assoc, List.singleton_append, cutUser_append _ hat]
    · cases password with
      | nil => simpa using Form.cut_of_not_mem hcolon
      | cons c password => exact Form.cut_append hcolon (c :: password)

/-- The port in the text of an authority. -/
def portText : Option Nat → List Char
  | some n => ':' :: Nat.toDigits 10 n
  | none => []

theorem at_not_mem_portText (port : Option Nat) : '@' ∉ portText port := by
  cases port with
  | none => exact List.not_mem_nil
  | some n =>
    intro h
    obtain h | h := List.mem_cons.1 h
    · exact absurd h (by decide)
    · exact absurd (Nat.isDigit_of_mem_toDigits (by decide) (by decide) h) (by decide)

theorem Authority.text_eq (a : Authority) :
    a.text = userText a.user a.password ++ (a.host.text ++ portText a.port) := by
  change userText a.user a.password ++ a.host.text ++ portText a.port = _
  exact List.append_assoc _ _ _

theorem cutHost_append {s : List Char} (h : ∀ c ∈ s, c ≠ ':' ∧ c ≠ '[') (port : Option Nat) :
    cutHost false (s ++ portText port) = (s, portText port) := by
  induction s with
  | nil => cases port <;> rfl
  | cons c s ih =>
    obtain ⟨hcolon, hbracket⟩ := h c List.mem_cons_self
    have hrest := ih fun d hd => h d (List.mem_cons_of_mem c hd)
    rw [List.cons_append, cutHost, if_neg (by simp [hcolon])]
    simp [hbracket, hrest]

/-- The colons between brackets are none before a port. -/
theorem cutHost_bracketed {s : List Char} (h : ']' ∉ s) (port : Option Nat) :
    cutHost true (s ++ ']' :: portText port) = (s ++ [']'], portText port) := by
  induction s with
  | nil => cases port <;> rfl
  | cons c s ih =>
    obtain ⟨hc, hs⟩ := not_or.1 (mt List.mem_cons.2 h)
    rw [List.cons_append, cutHost, if_neg (by simp)]
    simp [Ne.symm hc, ih hs]

/-- The text of a host ends before the port, and there is no `@` in it. -/
theorem Host.IsRead.cutHost_text {host : Host} (h : host.IsRead) (port : Option Nat) :
    cutHost false (host.text ++ portText port) = (host.text, portText port) ∧ '@' ∉ host.text := by
  have hplain {name : List Char} (hallowed : ∀ c ∈ name, forbiddenInDomain c = false) :
      cutHost false (name ++ portText port) = (name, portText port) ∧ '@' ∉ name := by
    have hne {c d : Char} (hc : c ∈ name) (hd : forbiddenInDomain d = true) : c ≠ d := by
      rintro rfl
      rw [hallowed c hc] at hd
      cases hd
    exact ⟨cutHost_append (fun c hc => ⟨hne hc (by decide), hne hc (by decide)⟩) port,
      fun hat => hne hat (by decide) rfl⟩
  cases host with
  | domain name => exact hplain h.2.1
  | ipv4 a => exact hplain (domainToAscii_allowed (ipv4_text_spelled a).1)
  | ipv6 ps =>
    have hother {c : Char} (hcolon : c ≠ ':') (hdigit : ∀ k < 16, c ≠ Nat.digitChar k) : c ∉ ipv6Text ps :=
      fun hc => (mem_ipv6Text hc).elim hcolon fun ⟨p, hc⟩ =>
        not_mem_toDigits hdigit (by decide) (by decide) p hc
    have hcut := cutHost_bracketed (hother (by decide) (by decide)) port
    have hat : '@' ∉ ipv6Text ps := hother (by decide) (by decide)
    have htext : (Host.ipv6 ps).text = '[' :: (ipv6Text ps ++ [']']) := rfl
    rw [htext]
    refine ⟨?_, by simpa using hat⟩
    rw [List.cons_append, List.append_assoc, cutHost, if_neg (by simp)]
    simp [hcut]

theorem port?_portText {scheme : List Char} {port : Option Nat}
    (h : ∀ n, port = some n → n ≤ 65535 ∧ defaultPort scheme ≠ some n) :
    port? scheme (portText port) = .ok (port, []) := by
  cases port with
  | none => rfl
  | some n =>
    obtain ⟨hle, hdefault⟩ := h n rfl
    have hall : (Nat.toDigits 10 n).takeWhile Char.isDigit = Nat.toDigits 10 n :=
      List.takeWhile_eq_self_iff.2 fun c hc => Nat.isDigit_of_mem_toDigits (by decide) (by decide) hc
    have hread : digitsIn? 10 (Nat.toDigits 10 n) = some n := digitsIn_toDigits (by decide) (by decide) n
    rw [portText, port?]
    simp [hall, hread, Nat.toDigits_ne_nil, Nat.not_lt.2 hle, hdefault]

/-- **An authority with an ordinary host** that was read is read as itself. -/
theorem Authority.IsRead.parse_text {scheme : List Char} (hspecial : isSpecial scheme = true) {a : Authority}
    (h : a.IsRead scheme) (hordinary : a.host.isOrdinary = true) (atEnd : Bool) :
    Authority.parse scheme a.text atEnd = .ok (a, []) := by
  have hsettled {s : List Char} (hs : ∃ t, s = percentEncode .userInfo t) :
      percentEncode .userInfo s = s ∧ ':' ∉ s := by
    obtain ⟨t, rfl⟩ := hs
    have hmem (c : Char) (hc : c ∈ percentEncode .userInfo t) :=
      mem_percentEncode PercentSet.userInfo_sparesEscapes hc
    exact ⟨percentEncode_eq_self hmem, fun hc => absurd (hmem ':' hc).2 (by decide)⟩
  have hhost := h.host.cutHost_text a.port
  have hat : '@' ∉ a.host.text ++ portText a.port := by
    rw [List.mem_append, not_or]
    exact ⟨hhost.2, at_not_mem_portText a.port⟩
  obtain ⟨info, huser, hcut⟩ := cutUser_userText a.user a.password (hsettled h.user).2 hat
  have hname : a.host.text.isEmpty = false := by simpa using h.host.text_bare.ne_nil
  rw [Authority.text_eq, Authority.parse, huser]
  simp only [hcut, hhost.1, hname, hspecial, (hsettled h.user).1, (hsettled h.password).1,
    h.host.parse_text hordinary, port?_portText h.port, Bool.false_and, Bool.false_eq_true, if_false,
    bind, Except.bind, pure, Except.pure]

end FlowRuns.Url
