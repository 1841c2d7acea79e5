import Mathlib.Data.List.DropRight
import FlowRuns.Proofs.Proxy.Endpoint

/-!
# Endpoints within reach

The URL of an endpoint is read from a text that begins with the one of the base URL. Whether a request can
be sent there is decided by scheme and host, and these come from the base URL: what the endpoint adds, and
be it the strangest identifier, begins after them.

* `ProxyClient.Takes`, `ProxyClient.request_eq_ok_iff` — the endpoints to which a request can be sent.
* `Url.parse_of_bare` — a text that begins with scheme and authority of a URL of the web.
* `ProxyClient.OnWeb.of_ordinary` — base URLs of the web by their scheme and host.
* `ProxyClient.OnWeb.takes` — **below a base URL of the web every endpoint is one of these.**
-/

namespace FlowRuns

open Url

namespace Url

/-- A text of an authority is read up to where an authority ends. -/
theorem parseSpecial_of_bare {scheme authority rest : List Char} (hbare : Bare authority)
    (hrest : ∀ d, rest.head? = some d → endsAuthority true d = true) {a : Authority} {left : List Char}
    (ha : Authority.parse scheme authority false = .ok (a, left)) :
    ∃ path, parseSpecial scheme ('/' :: '/' :: (authority ++ rest)) = .ok (some a, path) := by
  obtain ⟨c, cs, hcons⟩ := List.exists_cons_of_ne_nil hbare.ne_nil
  have hc : isSlash true c = false := by
    have hends := endsAuthority_of_isBare (hbare.all c (hcons ▸ List.mem_cons_self))
    simp only [endsAuthority, Bool.or_eq_false_iff] at hends
    exact hends.1.1
  have hafter : ('/' :: '/' :: (authority ++ rest)).dropWhile (isSlash true) = authority ++ rest := by
    rw [List.dropWhile_cons_of_pos (by decide), List.dropWhile_cons_of_pos (by decide), hcons,
      List.cons_append, List.dropWhile_cons_of_neg (by simp [hc])]
  have hfront : (authority ++ rest).takeWhile (fun c => !endsAuthority true c) = authority := by
    rw [List.takeWhile_append_of_pos fun c hc => by rw [endsAuthority_of_isBare (hbare.all c hc)]; rfl]
    cases rest with
    | nil => simp
    | cons d rest => rw [List.takeWhile_cons_of_neg (by simp [hrest d rfl]), List.append_nil]
  unfold parseSpecial
  rw [hafter]
  dsimp only
  rw [hfront, ha]
  exact ⟨_, rfl⟩

/-- What is read of the parts of a URL of the web that its authority is in. -/
theorem parse_of_parseSpecial {s scheme rest : List Char} (hweb : IsWeb scheme)
    (hscheme : scheme? (clean s) = some (scheme, rest)) {authority : Option Authority} {path : Path}
    (h : parseSpecial scheme (cutTail rest).1 = .ok (authority, path)) :
    ∃ u, parse s = .ok u ∧ u.scheme = scheme ∧ u.authority = authority := by
  have hfile : scheme ≠ "file".toList := by
    rintro rfl
    revert hweb
    decide
  unfold parse
  rw [hscheme]
  simp only [bind, Except.bind]
  rw [if_neg hfile, if_pos hweb.isSpecial, h]
  exact ⟨_, rfl, rfl, rfl⟩

/-- The marks that may follow an authority end it, and stay where they are when a text is cleaned. -/
theorem mark_spec {d : Char} (hd : d ∈ ['/', '?', '#']) :
    endsAuthority true d = true ∧ isEndBlank d = false ∧ isUnbroken d = true := by
  simp only [List.mem_cons, List.not_mem_nil, or_false] at hd
  rcases hd with rfl | rfl | rfl <;> decide

/-- What is left of a text begins as the text does. -/
theorem eq_of_head?_cutTail {d e : Char} {tail : List Char}
    (he : (cutTail (d :: tail)).1.head? = some e) : d = e := by
  unfold cutTail at he
  rw [List.head?_takeWhile, List.head?_takeWhile, Option.filter_filter, List.head?_cons,
    Option.filter_eq_some_iff] at he
  exact Option.some.inj he.1

/-- Nothing is taken away from between a scheme and the mark after the authority. -/
theorem isPlain_of_mem_middle {authority : List Char} (hbare : Bare authority) :
    ∀ c ∈ '/' :: '/' :: authority, isPlain c = true := by
  intro c hc
  simp only [List.mem_cons] at hc
  obtain rfl | rfl | hc := hc
  · decide
  · decide
  · exact isPlain_of_isBare (hbare.all c hc)

/-- **A text that begins with scheme and authority of a URL of the web** is one of such a URL. -/
theorem parse_of_bare {scheme authority : List Char} (hweb : IsWeb scheme) (hbare : Bare authority)
    {d : Char} (hd : d ∈ ['/', '?', '#']) (tail : List Char) {a : Authority} {left : List Char}
    (ha : Authority.parse scheme authority false = .ok (a, left)) :
    ∃ u, parse (scheme ++ ':' :: '/' :: '/' :: authority ++ d :: tail) = .ok u ∧ u.scheme = scheme ∧
      u.authority = some a := by
  obtain ⟨⟨first, hfirst, hblank⟩, hplain⟩ := hweb.isScheme.isPlain
  have hhead : (scheme ++ ':' :: '/' :: '/' :: authority).head? = some first := by simp [hfirst]
  have hmiddle := isPlain_of_mem_middle hbare
  have hfront : ∀ c ∈ scheme ++ ':' :: '/' :: '/' :: authority, isUnbroken c = true := by
    intro c hc
    obtain hc | hc := List.mem_append.1 hc
    · exact (isPlain_iff.1 (hplain c hc)).1
    · obtain rfl | hc := List.mem_cons.1 hc
      · decide
      · exact (isPlain_iff.1 (hmiddle c hc)).1
  obtain ⟨hends, hmark⟩ := mark_spec hd
  have hscheme : scheme? (clean (scheme ++ ':' :: '/' :: '/' :: authority ++ d :: tail)) =
      some (scheme, '/' :: '/' :: authority ++ d :: cleanEnd tail) := by
    rw [clean_append hhead hblank hfront hmark.1 hmark.2, List.append_assoc]
    exact scheme?_append hweb.isScheme _
  -- whatever mark follows the authority, it ends there
  have hrest : ∀ e, (cutTail (d :: cleanEnd tail)).1.head? = some e → endsAuthority true e = true := by
    intro e he
    obtain rfl := eq_of_head?_cutTail he
    exact hends
  obtain ⟨path, hpath⟩ := parseSpecial_of_bare hbare hrest ha
  have hcut := cutTail_append (fun c hc => (isPlain_iff.1 (hmiddle c hc)).2) (d :: cleanEnd tail)
  refine parse_of_parseSpecial hweb hscheme (Eq.trans ?_ hpath)
  rw [hcut]
  rfl

end Url

namespace ProxyClient

/-- The text of the URL of an endpoint is that of a URL of a web server. To such a URL the HTTP library sends
what it is given, and to no other. -/
def Takes (c : ProxyClient) (endpoint : String) : Prop :=
  ∃ u, Url.parse (c.endpointText endpoint).toList = .ok u ∧ u.hasHost = true ∧ IsWeb u.scheme

/-- **A request can be made** exactly if its URL is one of a web server, if the organization can stand in a
header. -/
theorem request_eq_ok_iff {c : ProxyClient} (horg : Http.isHeaderValue (c.orgSlug.getD "") = true)
    {method : Http.Method} {endpoint : String} {pairs : List (String × String)} {payload : Option Json}
    {timeout : Option UInt64} :
    (∃ r, c.request method endpoint pairs payload timeout = .ok r) ↔ c.Takes endpoint := by
  unfold request Takes
  cases hparse : Url.parse (c.endpointText endpoint).toList with
  | error e => exact ⟨nofun, nofun⟩
  | ok u =>
    have hscheme : ((withoutUser u).withPairs pairs).scheme = u.scheme :=
      (withPairs_scheme (withoutUser u) pairs).1
    have hweb : webSchemes.contains ((withoutUser u).withPairs pairs).scheme = true ↔ IsWeb u.scheme := by
      rw [hscheme, List.contains_iff_mem]
      rfl
    constructor
    · rintro ⟨r, hr⟩
      dsimp only at hr
      rw [horg] at hr
      split at hr
      · cases hr
      next hhost =>
        split at hr
        · cases hr
        · split at hr
          next hscheme => exact ⟨u, rfl, by simpa using hhost, hweb.1 hscheme⟩
          next => cases hr
    · rintro ⟨u', hu', hhost, hscheme⟩
      obtain rfl := Except.ok.inj hu'
      dsimp only
      rw [hhost, horg, Bool.not_true, if_neg Bool.false_ne_true, if_neg Bool.false_ne_true,
        if_pos (hweb.2 hscheme)]
      exact ⟨_, rfl⟩

/-- The base URL is one of the web, and the text of its authority is one of an authority when it is read
again. It is if the host is an ordinary one (`OnWeb.of_ordinary`). -/
structure OnWeb (c : ProxyClient) : Prop where
  /-- it was read from a text -/
  parsed : ∃ t, Url.parse t = .ok c.baseUrl
  /-- it has a scheme of the web -/
  web : IsWeb c.baseUrl.scheme
  /-- the authority reads again -/
  again : ∀ a, c.baseUrl.authority = some a →
    ∃ a' left, Authority.parse c.baseUrl.scheme a.text false = .ok (a', left)

/-- **An ordinary host and a scheme of the web** are enough for a base URL that was read from a text. -/
theorem OnWeb.of_ordinary {c : ProxyClient} {t : List Char} (ht : Url.parse t = .ok c.baseUrl)
    (hweb : IsWeb c.baseUrl.scheme) {a : Authority} (ha : c.baseUrl.authority = some a)
    (hordinary : a.host.isOrdinary = true) : c.OnWeb where
  parsed := ⟨t, ht⟩
  web := hweb
  again b hb := by
    obtain rfl := Option.some.inj (ha.symm.trans hb)
    obtain ⟨a', -, hauthority, hread, -⟩ := authority_and_path_of_parse ht hweb
    obtain rfl := Option.some.inj (ha.symm.trans hauthority)
    exact ⟨a, [], hread.parse_text hweb.isSpecial hordinary false⟩

/-- What follows the authority in the text of a URL begins with a mark. -/
theorem head?_afterAuthority {ss : List (List Char)} {query fragment : Option (List Char)} {d : Char}
    (h : (ss.flatMap ('/' :: ·) ++ marked '?' query ++ marked '#' fragment).head? = some d) :
    d ∈ ['/', '?', '#'] := by
  cases ss with
  | cons s ss =>
    obtain rfl := Option.some.inj h
    decide
  | nil =>
    cases query with
    | some q =>
      obtain rfl := Option.some.inj h
      decide
    | none =>
      cases fragment with
      | some f =>
        obtain rfl := Option.some.inj h
        decide
      | none => cases h

/-- A text with its end dropped begins as before, if anything is left of it. -/
theorem head?_trimEnd {α : Type} {p : α → Bool} {s : List α} {d : α}
    (h : (s.reverse.dropWhile p).reverse.head? = some d) : s.head? = some d := by
  obtain ⟨rest, hrest⟩ := List.head?_eq_some_iff.1 h
  have hprefix : (s.reverse.dropWhile p).reverse <+: s := List.rdropWhile_prefix p s
  obtain ⟨tail, htail⟩ := hprefix
  rw [← htail, hrest]
  rfl

/-- The text of an endpoint begins with scheme and authority of the base URL, and goes on with a mark. -/
theorem OnWeb.endpointText {c : ProxyClient} (h : c.OnWeb) (endpoint : String) :
    ∃ a d tail, c.baseUrl.authority = some a ∧ Bare a.text ∧ d ∈ ['/', '?', '#'] ∧
      (c.endpointText endpoint).toList =
        c.baseUrl.scheme ++ ':' :: '/' :: '/' :: a.text ++ d :: tail := by
  obtain ⟨t, hparse⟩ := h.parsed
  obtain ⟨a, ss, hauthority, hread, hpath, -⟩ := authority_and_path_of_parse hparse h.web
  have hbare := hread.text_bare
  have htext : c.baseUrl.text = c.baseUrl.scheme ++ ':' :: '/' :: '/' :: a.text ++
      (ss.flatMap ('/' :: ·) ++ marked '?' c.baseUrl.query ++ marked '#' c.baseUrl.fragment) := by
    rw [Url.text, Url.origin, Url.target, hauthority, hpath]
    simp [Path.text]
  generalize hback : ss.flatMap ('/' :: ·) ++ marked '?' c.baseUrl.query ++
    marked '#' c.baseUrl.fragment = back at htext
  have hhead (d : Char) (hd : back.head? = some d) : d ∈ ['/', '?', '#'] := by
    rw [← hback] at hd
    exact head?_afterAuthority hd
  -- the slashes that are dropped come after the authority, which does not end in one
  obtain ⟨front, last, hlast⟩ := (List.eq_nil_or_concat a.text).resolve_left hbare.ne_nil
  have hne : decide (last = '/') = false := by
    simpa using ne_of_isBare (hbare.all last (by simp [hlast])) (by decide : '/' ∈ marks)
  have hbase : (c.baseUrl.text.reverse.dropWhile (· = '/')).reverse =
      c.baseUrl.scheme ++ ':' :: '/' :: '/' :: a.text ++ (back.reverse.dropWhile (· = '/')).reverse := by
    have hconcat : c.baseUrl.text =
        (c.baseUrl.scheme ++ ':' :: '/' :: '/' :: front) ++ last :: back := by simp [htext, hlast]
    rw [hconcat, trimEnd_append_cons (p := (· = '/')) hne]
    simp [hlast]
  have hfull : (c.endpointText endpoint).toList = c.baseUrl.scheme ++ ':' :: '/' :: '/' :: a.text ++
      ((back.reverse.dropWhile (· = '/')).reverse ++ "/proxy/".toList ++
        endpoint.toList.dropWhile (· = '/')) := by
    rw [ProxyClient.endpointText, String.toList_ofList, hbase]
    simp
  rw [hfull]
  cases hkept : (back.reverse.dropWhile (· = '/')).reverse with
  | nil => exact ⟨a, '/', _, hauthority, hbare, by decide, rfl⟩
  | cons d tail =>
    refine ⟨a, d, _, hauthority, hbare, hhead d (head?_trimEnd (p := (· = '/')) ?_), rfl⟩
    rw [hkept]
    rfl

/-- **Below a base URL of the web every endpoint is within reach**, whatever it holds. -/
theorem OnWeb.takes {c : ProxyClient} (h : c.OnWeb) (endpoint : String) : c.Takes endpoint := by
  obtain ⟨a, d, tail, hauthority, hbare, hd, htext⟩ := h.endpointText endpoint
  obtain ⟨a', left, ha⟩ := h.again a hauthority
  obtain ⟨u, hparse, hscheme, hauthority'⟩ := parse_of_bare h.web hbare hd tail ha
  refine ⟨u, htext ▸ hparse, ?_, hscheme ▸ h.web⟩
  -- a host that was read with such a scheme is written with some characters
  have hne : a'.host ≠ .domain [] := fun hnil => by
    have hchars := (Authority.parse_spec h.web.isSpecial ha).host.text_bare.ne_nil
    rw [hnil] at hchars
    exact hchars rfl
  rw [Url.hasHost, hauthority']
  exact decide_eq_true hne

end ProxyClient

end FlowRuns
