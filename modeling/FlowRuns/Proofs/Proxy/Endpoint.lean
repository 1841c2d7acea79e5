import FlowRuns.Proxy.Client
import FlowRuns.Proofs.Url.Segments

/-!
# The URL of an endpoint

The text of an endpoint's URL is written from the base URL of the client and read again. If a request
comes of it, the base URL is one of the web, the request keeps its path, and the rest of the path and
the query come from the endpoint.

* `request_spec` — a request that is made names a URL that was read from the text of the endpoint.
* `endpointText_web` — that text, by its parts.
* `request_path` — **the path and the query of a request.**
-/

namespace FlowRuns

open Url

/-- The path of a URL without slashes at its end. -/
def Url.basePath (u : Url) : List (List Char) :=
  match u.path with
  | .segments ss => trimmed ss
  | .uninterpreted _ => []

namespace ProxyClient

section

variable {c : ProxyClient} {method : Http.Method} {endpoint : String}
  {pairs : List (String × String)} {payload : Option Json} {timeout : Option UInt64}
  {r : Http.Request}

theorem withPairs_scheme (u : Url) (pairs : List (String × String)) :
    (u.withPairs pairs).scheme = u.scheme ∧ (u.withPairs pairs).path = u.path := by
  unfold Url.withPairs
  split
  · exact ⟨rfl, rfl⟩
  · dsimp only
    split <;> exact ⟨rfl, rfl⟩

theorem withPairs_query {u : Url} (h : u.query = none) (pairs : List (String × String)) :
    (u.withPairs pairs).query =
      if pairs.isEmpty then none else some (Text.Form.encodePairs pairs) := by
  unfold Url.withPairs
  split
  · exact h
  · simp only [h]

/-- The URL of a request that is made. -/
theorem request_spec (h : c.request method endpoint pairs payload timeout = .ok r) :
    ∃ u, Url.parse (c.endpointText endpoint).toList = .ok u ∧ IsWeb u.scheme ∧ r.url.path = u.path ∧
      (u.query = none → r.url.query =
        if pairs.isEmpty then none else some (Text.Form.encodePairs pairs)) := by
  unfold request at h
  split at h
  · cases h
  · rename_i u hparse
    refine ⟨u, hparse, ?_⟩
    obtain ⟨hscheme, hpath⟩ := withPairs_scheme (withoutUser u) pairs
    split at h
    · cases h
    · split at h
      · cases h
      · dsimp only at h
        split at h
        · rename_i hweb
          rw [hscheme] at hweb
          rw [← Except.ok.inj h]
          exact ⟨List.contains_iff_mem.1 hweb, hpath, fun hquery =>
            withPairs_query (u := withoutUser u) hquery pairs⟩
        · cases h

end

/-! ## The text of an endpoint -/

/-- The text of the base URL, without slashes at its end. -/
theorem endpointText_toList (c : ProxyClient) {endpoint : String}
    (h : ∀ d, endpoint.toList.head? = some d → d ≠ '/') :
    (c.endpointText endpoint).toList =
      (c.baseUrl.text.reverse.dropWhile (· = '/')).reverse ++ "/proxy/".toList ++ endpoint.toList := by
  have hdrop : endpoint.toList.dropWhile (· = '/') = endpoint.toList :=
    dropWhile_eq_self_iff.2 fun d hd => by simpa using h d hd
  rw [endpointText, String.toList_ofList, hdrop]

/-- The text begins with the scheme of the base URL, whatever that is. -/
theorem endpointText_scheme (c : ProxyClient) {endpoint : String}
    (h : ∀ d, endpoint.toList.head? = some d → d ≠ '/') :
    ∃ rest, (c.endpointText endpoint).toList = c.baseUrl.scheme ++ ':' :: rest := by
  obtain ⟨rest, hrest⟩ : ∃ rest, c.baseUrl.text = c.baseUrl.scheme ++ ':' :: rest :=
    ⟨_, by rw [Url.text, Url.origin, List.append_assoc, List.append_assoc, List.cons_append]⟩
  rw [endpointText_toList c h, hrest, trimEnd_append_cons (by decide)]
  exact ⟨_, by rw [List.append_assoc, List.append_assoc, List.cons_append]⟩

/-- The text of an endpoint below a base URL of the web without query and fragment. -/
theorem endpointText_web {c : ProxyClient} {t : List Char} (hbase : Url.parse t = .ok c.baseUrl)
    (hquery : c.baseUrl.query = none) (hfragment : c.baseUrl.fragment = none)
    (hweb : IsWeb c.baseUrl.scheme) {endpoint : String}
    (h : ∀ d, endpoint.toList.head? = some d → d ≠ '/') :
    ∃ authority, Bare authority ∧ (∀ s ∈ c.baseUrl.basePath, Settled s) ∧
      (c.endpointText endpoint).toList = c.baseUrl.scheme ++ ':' :: '/' :: '/' ::
        (authority ++ (c.baseUrl.basePath ++ ["proxy".toList]).flatMap ('/' :: ·)) ++
        '/' :: endpoint.toList := by
  obtain ⟨a, ss, hauthority, hread, hpath, hss⟩ := authority_and_path_of_parse hbase hweb
  have hbare := hread.text_bare
  have hbasePath : c.baseUrl.basePath = trimmed ss := by rw [Url.basePath, hpath]
  refine ⟨a.text, hbare, hbasePath ▸ settled_trimmed hss, ?_⟩
  have htext : c.baseUrl.text =
      c.baseUrl.scheme ++ ':' :: '/' :: '/' :: a.text ++ ss.flatMap ('/' :: ·) := by
    rw [Url.text, Url.origin, Url.target, hauthority, hpath, hquery, hfragment]
    simp [marked, Path.text]
  have hend : (c.baseUrl.scheme ++ ':' :: '/' :: '/' :: a.text).getLast? ≠ some '/' := by
    obtain ⟨front, d, hd⟩ := (List.eq_nil_or_concat a.text).resolve_left hbare.ne_nil
    have hne : d ≠ '/' := ne_of_isBare (hbare.all d (by simp [hd])) (by decide)
    have hconcat : c.baseUrl.scheme ++ ':' :: '/' :: '/' :: a.text =
        c.baseUrl.scheme ++ ':' :: '/' :: '/' :: front ++ [d] := by simp [hd]
    rw [hconcat, List.getLast?_concat]
    exact fun heq => hne (Option.some.inj heq)
  have hslash : ∀ s ∈ ss, '/' ∉ s := fun s hs hmem => by
    have := (hss s hs).noSlash '/' hmem
    revert this
    decide
  rw [endpointText_toList c h, htext, dropWhile_slash_segments hend hslash, hbasePath]
  simp

/-- **The path and the query of a request**: the path goes on from the one of the base URL as the
endpoint is read, and the query is the one of the call if the endpoint holds none. -/
theorem request_path {c : ProxyClient} {t : List Char} (hbase : Url.parse t = .ok c.baseUrl)
    (hquery : c.baseUrl.query = none) (hfragment : c.baseUrl.fragment = none) {endpoint : String}
    (hslash : ∀ d, endpoint.toList.head? = some d → d ≠ '/') {method : Http.Method}
    {pairs : List (String × String)} {payload : Option Json} {timeout : Option UInt64}
    {r : Http.Request} (h : c.request method endpoint pairs payload timeout = .ok r) :
    r.url.path = .segments (resolve keep (c.baseUrl.basePath ++ ["proxy".toList]).reverse
        (splitPath true (mainPart endpoint.toList))) ∧
      ((cutTail (cleanEnd endpoint.toList)).2.1 = none → r.url.query =
        if pairs.isEmpty then none else some (Text.Form.encodePairs pairs)) := by
  obtain ⟨u, hparse, hweb, hpath, hpairs⟩ := request_spec h
  obtain ⟨_, hscheme, _⟩ := parse_spec hbase
  obtain ⟨rest, htext⟩ := endpointText_scheme c hslash
  have hsame : u.scheme = c.baseUrl.scheme :=
    scheme_of_parse (isScheme_of_scheme? hscheme) (htext ▸ hparse)
  obtain ⟨authority, hbare, hsettled, htext⟩ :=
    endpointText_web hbase hquery hfragment (hsame ▸ hweb) hslash
  have hproxy : ∀ s ∈ c.baseUrl.basePath ++ ["proxy".toList], Settled s := fun s hs => by
    obtain hs | hs := List.mem_append.1 hs
    · exact hsettled s hs
    · obtain rfl := List.mem_singleton.1 hs
      decide
  obtain ⟨hread, hrest⟩ := path_of_parse_append (hsame ▸ hweb) hbare hproxy (htext ▸ hparse)
  exact ⟨hpath.trans hread, fun hnone => hpairs (by rw [hrest, hnone]; rfl)⟩

end ProxyClient

end FlowRuns
