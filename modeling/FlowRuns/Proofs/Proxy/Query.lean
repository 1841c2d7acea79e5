import FlowRuns.Proofs.Proxy.Answers
import FlowRuns.Proofs.Text.Form

/-!
# Arguments in queries

Two calls of the client put arguments into the query of a request: the flow runs of a deployment, and a page
of a log. The endpoint is written as a text and read as a URL before the query is appended, and the query is
encoded. What a server reads in the target of the request are the arguments, as they were given.

* `ProxyCall.mem_sent_iff` — the requests that a call sends.
* `Http.Request.Reads` — what a server reads in the target of a request.
* `ProxyClient.reads_of_unblurred` — **what is read** of an endpoint and parameters.
* `ProxyCall.arguments_unchanged` — **the two calls.**
-/

namespace FlowRuns

open Url

/-! ## The requests that a call sends -/

/-- The requests that a call sends to a server. -/
abbrev ProxyCall.sent (c : ProxyClient) (call : ProxyCall) {σ : Type}
    (serve : (r : httpPeer.Request) → σ → httpPeer.Answer r × σ) (s : σ) : List Http.Request :=
  ((call.program c).run (Program.recording serve) (s, [])).state.2

namespace ProxyCall

variable {c : ProxyClient} {call : ProxyCall} {σ : Type}
  {serve : (r : httpPeer.Request) → σ → httpPeer.Answer r × σ} {s : σ}

/-- A call whose arguments pass sends its request, if that can be made. -/
theorem sent_of_made (h : call.Valid) {r : Http.Request} (hr : call.request c = .ok r) :
    call.sent c serve s = [r] := by
  have hstate : ((call.program c).run (Program.recording serve) (s, [])).state = ((serve r s).2, [r]) :=
    (leaves_of_made h hr).2
  exact congrArg Prod.snd hstate

/-- **The requests that a call sends**: the one that its arguments make, if they pass. -/
theorem mem_sent_iff {r : Http.Request} :
    r ∈ call.sent c serve s ↔ call.Valid ∧ call.request c = .ok r := by
  by_cases hvalid : call.Valid
  · cases hrequest : call.request c with
    | ok r' => simp [sent_of_made hvalid hrequest, hvalid, eq_comm]
    | error fault =>
      have hstate : ((call.program c).run (Program.recording serve) (s, [])).state = (s, []) :=
        (leaves_of_fault hvalid hrequest).2
      have hnone : call.sent c serve s = [] := congrArg Prod.snd hstate
      simp [hnone]
  · obtain ⟨v, hv⟩ := program_of_not_valid (c := c) hvalid
    have hnone : call.sent c serve s = [] := by
      rw [sent, hv]
      rfl
    simp [hnone, hvalid]

/-- Below a base URL of the web a call whose arguments pass sends one request. -/
theorem exists_sent (hweb : c.OnWeb) (horg : Http.isHeaderValue (c.orgSlug.getD "") = true)
    (h : call.Valid) : ∃ r, call.sent c serve s = [r] := by
  obtain ⟨r, hr⟩ := (ProxyClient.request_eq_ok_iff horg).2 (hweb.takes call.endpoint)
  exact ⟨r, sent_of_made h hr⟩

end ProxyCall

/-! ## What a server reads -/

/-- What a server reads in a request: a path of segments, and a query that stands for pairs. The target that
is sent falls into just this path and this query. -/
structure Http.Request.Reads (r : Http.Request) (segments : List (List Char))
    (pairs : List (String × String)) : Prop where
  /-- the path -/
  path : r.url.path = .segments segments
  /-- the query -/
  query : ∃ query, r.url.query = some query ∧ Text.Form.decodePairs query = pairs
  /-- the target -/
  target : cutTail r.target.toList = (r.url.path.text, r.url.query, none)

namespace Url

/-- A text that is nothing but a query. -/
theorem cutTail_query {query : List Char} (h : '#' ∉ query) :
    cutTail ('?' :: query) = ([], some query, none) := by
  have hfront : ('?' :: query).takeWhile (fun c => decide (c ≠ '#')) = '?' :: query := by
    rw [List.takeWhile_eq_self_iff]
    intro c hc
    have hne : c ≠ '#' := by
      rintro rfl
      exact h ((List.mem_cons.1 hc).resolve_left (by decide))
    exact decide_eq_true hne
  unfold cutTail
  simp only [hfront]
  simp

end Url

namespace Http.Request

variable {r r' : Http.Request} {segments segments' : List (List Char)} {pairs pairs' : List (String × String)}

/-- Requests with one target are read alike. -/
theorem Reads.of_target (h : r.Reads segments pairs) (h' : r'.Reads segments' pairs')
    (htarget : r.target = r'.target) :
    segments.flatMap ('/' :: ·) = segments'.flatMap ('/' :: ·) ∧ pairs = pairs' := by
  have hcut := h.target
  rw [htarget, h'.target, h.path, h'.path] at hcut
  obtain ⟨hpath, hrest⟩ := Prod.mk.inj hcut
  obtain ⟨query, hquery, rfl⟩ := h.query
  obtain ⟨query', hquery', rfl⟩ := h'.query
  have hsame : some query' = some query := by
    rw [← hquery, ← hquery']
    exact (Prod.mk.inj hrest).1
  exact ⟨hpath.symm, by rw [Option.some.inj hsame]⟩

end Http.Request

namespace ProxyClient

variable {c : ProxyClient} {t : List Char} {method : Http.Method} {endpoint : String}
  {pairs : List (String × String)} {payload : Option Json} {timeout : Option UInt64} {r : Http.Request}

/-- The path of a request that is made has segments that stay. -/
theorem settled_of_request (h : c.request method endpoint pairs payload timeout = .ok r) :
    ∃ ss, r.url.path = .segments ss ∧ ∀ s ∈ ss, Settled s := by
  obtain ⟨u, hparse, hweb, hpath, -⟩ := request_spec h
  obtain ⟨_, ss, -, -, hss, hsettled⟩ := authority_and_path_of_parse hparse hweb
  exact ⟨ss, hpath.trans hss, hsettled⟩

/-- **What is read** of an endpoint whose parts are taken for nothing else, and of parameters, whatever they
hold. -/
theorem reads_of_unblurred (hbase : Url.parse t = .ok c.baseUrl) (hquery : c.baseUrl.query = none)
    (hfragment : c.baseUrl.fragment = none) {parts : List (List Char)} (hparts : parts ≠ [])
    (hendpoint : endpoint.toList = joined parts) (hunblurred : Unblurred parts)
    (hslash : ∀ d, (joined parts).head? = some d → d ≠ '/') (hpairs : pairs ≠ [])
    (h : c.request method endpoint pairs payload timeout = .ok r) :
    r.Reads (c.baseUrl.basePath ++ "proxy".toList :: parts.map (Text.percentEncode .path)) pairs := by
  obtain ⟨hpath, hown⟩ := request_path hbase hquery hfragment (hendpoint ▸ hslash) h
  rw [hendpoint, resolve_of_unblurred hparts hunblurred] at hpath
  have hencoded : r.url.query = some (Text.Form.encodePairs pairs) := by
    rw [hown (by rw [hendpoint, cutTail_of_unblurred hunblurred]), if_neg (by simpa using hpairs)]
  refine ⟨by simpa using hpath, ⟨_, hencoded, Text.Form.decodePairs_encodePairs pairs⟩, ?_⟩
  -- neither mark stands in the path, and no number sign in the query
  obtain ⟨ss, hss, hsettled⟩ := settled_of_request h
  have hmarks : ∀ d ∈ r.url.path.text, d ≠ '#' ∧ d ≠ '?' := fun d hd =>
    (isPlain_iff.1 (isPlain_of_mem_segments hsettled (by rwa [hss] at hd))).2
  have hhash : '#' ∉ Text.Form.encodePairs pairs := fun hmem => by
    have hchar := Text.Form.mem_encodePairs hmem
    revert hchar
    decide
  rw [Http.Request.target, String.toList_ofList, Url.target, hencoded, marked, cutTail_append hmarks,
    cutTail_query hhash, List.append_nil]

end ProxyClient

/-! ## Identifiers of letters, digits and hyphens -/

/-- A letter, a digit or a hyphen. Characters outside ASCII, letters or not, are taken for nothing else
either. -/
def isIdentifierChar (c : Char) : Bool := c.isAlphanum || c = '-' || 0x80 ≤ c.toNat

namespace Url

variable {s : List Char}

/-- A text without percent signs is resolved and read as it is written. -/
theorem dotted_eq_self (h : '%' ∉ s) : dotted s = s := by
  fun_induction dotted s with
  | case1 rest => exact absurd List.mem_cons_self h
  | case2 rest => exact absurd List.mem_cons_self h
  | case3 c rest _ _ ih => rw [ih fun hmem => h (List.mem_cons_of_mem c hmem)]
  | case4 => rfl

/-- An identifier of letters, digits and hyphens is taken for nothing else. -/
theorem unmistakable_of_identifier (h : ∀ c ∈ s, isIdentifierChar c = true) : Unmistakable s := by
  have hother (d : Char) (hd : isIdentifierChar d = false) : d ∉ s := fun hmem => by
    rw [h d hmem] at hd
    cases hd
  have hne {c : Char} (hc : c ∈ s) {d : Char} (hd : isIdentifierChar d = false) : c ≠ d := by
    rintro rfl
    exact hother c hd hc
  refine ⟨fun c hc => ?_, fun c hc => ?_, ?_, Text.hasEscape_eq_false (hother '%' (by decide))⟩
  · simp [isPlain, hne hc (d := '\t') (by decide), hne hc (d := '\n') (by decide),
      hne hc (d := '\r') (by decide), hne hc (d := '#') (by decide), hne hc (d := '?') (by decide)]
  · simp [isSlash, hne hc (d := '/') (by decide), hne hc (d := '\\') (by decide)]
  · have hdots : ∀ n, s ≠ List.replicate (n + 1) '.' := fun n heq =>
      hother '.' (by decide) (heq ▸ List.mem_cons_self)
    simp only [isDots, isSingleDot, isDoubleDot, dotted_eq_self (hother '%' (by decide)),
      Bool.or_eq_false_iff, decide_eq_false_iff_not]
    exact ⟨hdots 0, hdots 1⟩

/-- No identifier of letters, digits and hyphens ends in a blank. -/
theorem isEndBlank_of_isIdentifierChar {c : Char} (h : isIdentifierChar c = true) :
    isEndBlank c = false := by
  have hall : ∀ n < 128, isIdentifierChar (Char.ofNat n) = true → isEndBlank (Char.ofNat n) = false := by
    decide
  by_cases hascii : c.toNat < 128
  · exact Text.forall_ascii (fun c => isIdentifierChar c = true → isEndBlank c = false) hall hascii h
  · exact decide_eq_false (by omega)

end Url

/-! ## The two calls -/

/-- A text without escapes can be told from its encoding for a path. -/
theorem Text.percentEncode_path_inj {s t : String}
    (h : percentEncode .path s.toList = percentEncode .path t.toList)
    (hs : hasEscape s.toList = false) (ht : hasEscape t.toList = false) : s = t := by
  have hbytes : bytes s.toList = bytes t.toList := by
    rw [← percentDecode_eq_bytes hs, ← percentDecode_eq_bytes ht,
      ← percentDecode_percentEncode PercentSet.path_sparesEscapes s.toList, h,
      percentDecode_percentEncode PercentSet.path_sparesEscapes]
  rw [← ofBytesLossy_bytes s, hbytes, ofBytesLossy_bytes]

namespace ProxyClient

/-- A number can be told from its text. -/
theorem numberText_injective : numberText.Injective := by
  intro n m h
  have hdigits : Nat.toDigits 10 n.toNat = Nat.toDigits 10 m.toNat := String.ofList_injective h
  rw [← UInt32.toNat_inj, ← Nat.ofDigitChars_toDigits (b := 10) (n := n.toNat) (by decide) (by decide),
    hdigits, Nat.ofDigitChars_toDigits (by decide) (by decide)]

/-- What is left out can be told from what is put under a key. -/
theorem pair_toList_inj {α : Type} {f : α → String} (hf : f.Injective) {key : String} {o o' : Option α}
    (h : (o.map fun x => (key, f x)).toList = (o'.map fun x => (key, f x)).toList) : o = o' := by
  cases o <;> cases o' <;> simp_all [hf.eq_iff]

/-- The arguments can be told from the query. -/
theorem flowRunsPairs_inj {q q' : FlowRunsRequest} (h : flowRunsPairs q = flowRunsPairs q') : q = q' := by
  obtain ⟨id, limit⟩ := q
  obtain ⟨id', limit'⟩ := q'
  obtain ⟨hid, hlimit⟩ := List.cons.inj h
  obtain rfl : id = id' := (Prod.mk.inj hid).2
  obtain rfl : limit = limit' := pair_toList_inj numberText_injective hlimit
  rfl

/-- All arguments but the flow run can be told from the query. -/
theorem pagePairs_inj {page page' : PageRequest} (h : pagePairs page = pagePairs page')
    (hid : page.flowRunId = page'.flowRunId) : page = page' := by
  obtain ⟨id, task, limit, offset⟩ := page
  obtain ⟨id', task', limit', offset'⟩ := page'
  obtain ⟨hoffset, hrest⟩ := List.cons.inj h
  obtain ⟨hlimit, htask⟩ := List.cons.inj hrest
  obtain rfl : offset = offset' := numberText_injective (Prod.mk.inj hoffset).2
  obtain rfl : limit = limit' := numberText_injective (Prod.mk.inj hlimit).2
  obtain rfl : task = task' := pair_toList_inj Function.injective_id htask
  obtain rfl : _ = id' := hid
  rfl

end ProxyClient

namespace ProxyCall

section Reads

variable {c : ProxyClient} {t : List Char} {r r' : Http.Request}

/-- **The flow runs of a deployment**: a fixed path, and the arguments in the query. -/
theorem reads_flowRuns (hbase : Url.parse t = .ok c.baseUrl) (hquery : c.baseUrl.query = none)
    (hfragment : c.baseUrl.fragment = none) {q : FlowRunsRequest}
    (hr : (flowRuns q).request c = .ok r) :
    r.Reads (c.baseUrl.basePath ++ ["proxy".toList, "flow_runs".toList]) (ProxyClient.flowRunsPairs q) := by
  obtain ⟨hword, hend, hencode⟩ := PathCall.word_spec (w := "flow_runs") (by decide)
  have hunblurred : Unblurred ["flow_runs".toList] :=
    ⟨fun s hs => List.mem_singleton.1 hs ▸ hword, fun s hs => Option.some.inj hs ▸ hend⟩
  have hreads := ProxyClient.reads_of_unblurred hbase hquery hfragment (by simp)
    (by simp [joined, endpoint]) hunblurred (by simp [joined]) (by simp [pairs, ProxyClient.flowRunsPairs]) hr
  rwa [List.map_singleton, hencode] at hreads

/-- **A page of a log** of a flow run whose identifier is of letters, digits and hyphens: the identifier at
the end of the path, and the other arguments in the query. -/
theorem reads_logPage (hbase : Url.parse t = .ok c.baseUrl) (hquery : c.baseUrl.query = none)
    (hfragment : c.baseUrl.fragment = none) {page : PageRequest}
    (hid : ∀ d ∈ page.flowRunId.toList, isIdentifierChar d = true)
    (hr : (path (.logPage page)).request c = .ok r) :
    r.Reads (c.baseUrl.basePath ++ ["proxy".toList, "flow_runs".toList, "logs".toList,
      Text.percentEncode .path page.flowRunId.toList]) (ProxyClient.pagePairs page) := by
  have hcontained : PathCall.Contained (.logPage page) := by
    refine ⟨fun id hmem => ?_, fun id hlast d hd => ?_⟩
    · obtain rfl : id = page.flowRunId := by simpa [PathCall.parts] using hmem
      exact unmistakable_of_identifier hid
    · obtain rfl : page.flowRunId = id := by simpa [PathCall.parts] using hlast
      exact isEndBlank_of_isIdentifierChar (hid d (List.mem_of_getLast? hd))
  have hendpoint : (Logs.endpoint page.flowRunId).toList =
      joined ((PathCall.logPage page).parts.map PathPart.text) := by
    simp [PathCall.parts, joined, PathPart.text, Logs.endpoint]
  have hreads := ProxyClient.reads_of_unblurred hbase hquery hfragment (by simp [PathCall.parts]) hendpoint
    (PathCall.contained_iff_unblurred.1 hcontained) (PathCall.head_joined_parts _)
    (by simp [pairs, PathCall.pairs, ProxyClient.pagePairs]) hr
  have hwords : Text.percentEncode .path "flow_runs".toList = "flow_runs".toList ∧
      Text.percentEncode .path "logs".toList = "logs".toList := by decide
  simpa only [PathCall.parts, List.map_cons, List.map_nil, PathPart.text, hwords, pairs,
    PathCall.pairs] using hreads

/-- A path that begins alike and ends in the encoding of an identifier is not the one of another. -/
theorem identifier_of_path (front : List (List Char)) {id id' : String}
    (hid : ∀ d ∈ id.toList, isIdentifierChar d = true) (hid' : ∀ d ∈ id'.toList, isIdentifierChar d = true)
    (h : (front ++ [Text.percentEncode .path id.toList]).flatMap ('/' :: ·) =
      (front ++ [Text.percentEncode .path id'.toList]).flatMap ('/' :: ·)) : id = id' := by
  simp only [List.flatMap_append, List.flatMap_singleton, List.append_cancel_left_eq, List.cons.injEq,
    true_and] at h
  exact Text.percentEncode_path_inj h (unmistakable_of_identifier hid).noEscape
    (unmistakable_of_identifier hid').noEscape

end Reads

/-- **Arguments in a query reach the proxy unchanged.** Let the base URL have neither query nor fragment. The
flow runs of a deployment are asked for at a fixed path below it, and the query stands for the deployment, the
very text, and then the limit if there is one. A page of the log of a flow run with an identifier of letters,
digits and hyphens is asked for at the path that ends in it, and the query stands for the offset, the limit
and then the task run if there is one, whatever text it is. Other arguments never make the same target. And if
the base URL is one of the web and the organization can stand in a header, then each such call with an
identifier that is not blank sends one request. -/
theorem arguments_unchanged (c : ProxyClient) {t : List Char} (hbase : Url.parse t = .ok c.baseUrl)
    (hquery : c.baseUrl.query = none) (hfragment : c.baseUrl.fragment = none) {σ : Type}
    (serve : (r : httpPeer.Request) → σ → httpPeer.Answer r × σ) (s : σ) :
    (∀ q, ∀ r ∈ (flowRuns q).sent c serve s,
      r.Reads (c.baseUrl.basePath ++ ["proxy".toList, "flow_runs".toList])
        (("deployment_id", q.deploymentId) :: (q.limit.map fun n => ("limit", toString n.toNat)).toList)) ∧
    (∀ page : PageRequest, (∀ d ∈ page.flowRunId.toList, isIdentifierChar d = true) →
      ∀ r ∈ (path (.logPage page)).sent c serve s,
        r.Reads (c.baseUrl.basePath ++ ["proxy".toList, "flow_runs".toList, "logs".toList,
            Text.percentEncode .path page.flowRunId.toList])
          (("offset", toString page.offset.toNat) :: ("limit", toString page.limit.toNat) ::
            (page.taskRunId.map fun task => ("task_run_id", task)).toList)) ∧
    (∀ q q', ∀ r ∈ (flowRuns q).sent c serve s, ∀ r' ∈ (flowRuns q').sent c serve s,
      r.target = r'.target → q = q') ∧
    (∀ page page' : PageRequest, (∀ d ∈ page.flowRunId.toList, isIdentifierChar d = true) →
      (∀ d ∈ page'.flowRunId.toList, isIdentifierChar d = true) →
      ∀ r ∈ (path (.logPage page)).sent c serve s, ∀ r' ∈ (path (.logPage page')).sent c serve s,
        r.target = r'.target → page = page') ∧
    (c.OnWeb → Http.isHeaderValue (c.orgSlug.getD "") = true →
      (∀ q, Text.isBlank q.deploymentId = false → ∃ r, (flowRuns q).sent c serve s = [r]) ∧
      (∀ page : PageRequest, (∀ d ∈ page.flowRunId.toList, isIdentifierChar d = true) →
        Text.isBlank page.flowRunId = false → ∃ r, (path (.logPage page)).sent c serve s = [r])) := by
  have hruns (q : FlowRunsRequest) (r : Http.Request) (hr : r ∈ (flowRuns q).sent c serve s) :=
    reads_flowRuns hbase hquery hfragment (mem_sent_iff.1 hr).2
  have hpage (page : PageRequest) (hid : ∀ d ∈ page.flowRunId.toList, isIdentifierChar d = true)
      (r : Http.Request) (hr : r ∈ (path (.logPage page)).sent c serve s) :=
    reads_logPage hbase hquery hfragment hid (mem_sent_iff.1 hr).2
  refine ⟨hruns, hpage, fun q q' r hr r' hr' htarget => ?_,
    fun page page' hid hid' r hr r' hr' htarget => ?_, fun hweb horg => ⟨fun q hblank => ?_,
    fun page hid hblank => ?_⟩⟩
  · exact ProxyClient.flowRunsPairs_inj ((hruns q r hr).of_target (hruns q' r' hr') htarget).2
  · obtain ⟨hpath, hpairs⟩ := (hpage page hid r hr).of_target (hpage page' hid' r' hr') htarget
    have hsame : page.flowRunId = page'.flowRunId :=
      identifier_of_path (c.baseUrl.basePath ++ ["proxy".toList, "flow_runs".toList, "logs".toList])
        hid hid' (by simpa using hpath)
    exact ProxyClient.pagePairs_inj hpairs hsame
  · exact exists_sent hweb horg hblank
  · refine exists_sent hweb horg fun id hmem => ?_
    obtain rfl : id = page.flowRunId := by simpa [PathCall.parts] using hmem
    exact ⟨hblank, fun hslash => absurd (hid '/' hslash) (by decide)⟩

/-- Identifiers that read like further parameters, and like the rest of an escape. -/
theorem arguments_unchanged_marks :
    let c : ProxyClient := ⟨⟨"http".toList, some ⟨[], [], .domain "proxy".toList, none⟩,
      .segments ["base".toList, []], none, none⟩, some "acme", 30, 60⟩
    let serve (_ : httpPeer.Request) (_ : Unit) : Http.Reply × Unit := (.none, ())
    let page : PageRequest := ⟨"run-1", some "%41 + #ü", 10, 20⟩
    Url.parse "http://proxy/base/".toList = .ok c.baseUrl ∧
      (∃ r, (flowRuns ⟨"1&limit=2", some 5⟩).sent c serve () = [r] ∧
        r.Reads ["base".toList, "proxy".toList, "flow_runs".toList]
          [("deployment_id", "1&limit=2"), ("limit", "5")]) ∧
      (∃ r, (path (.logPage page)).sent c serve () = [r] ∧
        r.Reads ["base".toList, "proxy".toList, "flow_runs".toList, "logs".toList, "run-1".toList]
          [("offset", "20"), ("limit", "10"), ("task_run_id", "%41 + #ü")]) ∧
      ∀ r ∈ (flowRuns ⟨"1&limit=2", none⟩).sent c serve (),
        ∀ r' ∈ (flowRuns ⟨"1", some 2⟩).sent c serve (), r.target ≠ r'.target := by
  intro c serve page
  have hbase : Url.parse "http://proxy/base/".toList = .ok c.baseUrl := rfl
  have hweb : c.OnWeb := .of_ordinary hbase (by decide) rfl (by decide)
  have hid : ∀ d ∈ page.flowRunId.toList, isIdentifierChar d = true :=
    List.all_eq_true.1 (by decide : page.flowRunId.toList.all isIdentifierChar = true)
  obtain ⟨hruns, hpage, htarget, -, hsent⟩ := arguments_unchanged c hbase rfl rfl serve ()
  obtain ⟨hrunsSent, hpageSent⟩ := hsent hweb (by decide)
  refine ⟨hbase, ?_, ?_, fun r hr r' hr' heq => ?_⟩
  · obtain ⟨r, hr⟩ := hrunsSent ⟨"1&limit=2", some 5⟩ (by decide)
    have hpairs : ("deployment_id", "1&limit=2") ::
        ((some (5 : UInt32)).map fun n => ("limit", toString n.toNat)).toList =
        [("deployment_id", "1&limit=2"), ("limit", "5")] := by decide
    exact ⟨r, hr, hpairs ▸ hruns ⟨"1&limit=2", some 5⟩ r (List.mem_of_mem_head? (congrArg List.head? hr))⟩
  · obtain ⟨r, hr⟩ := hpageSent page hid (by decide)
    have hnumbers : toString page.offset.toNat = "20" ∧ toString page.limit.toNat = "10" := by decide
    have hreads := hpage page hid r (List.mem_of_mem_head? (congrArg List.head? hr))
    have hencode : Text.percentEncode .path page.flowRunId.toList = "run-1".toList := by decide
    rw [hnumbers.1, hnumbers.2, hencode] at hreads
    exact ⟨r, hr, hreads⟩
  · have hsame := htarget _ _ r hr r' hr' heq
    revert hsame
    decide

end ProxyCall

end FlowRuns
