import FlowRuns.Proofs.Program
import FlowRuns.Proofs.Proxy.Endpoint

/-!
# Identifiers in the paths of requests

Six calls of the client put identifiers into the path of a request: as text, which is then read as a
URL. The check of such an identifier refuses blanks and slashes. That does not keep every identifier
within its segment; what does is stated here exactly.

* `PathCall` — the calls, with the parts of their paths.
* `PathCall.Stays` — a request goes to the endpoint of the call: below the path of the base URL, each
  identifier in one segment that reads as it, and with the call's own query.
* `PathCall.Contained` — the identifiers are taken for nothing else.
* `sent_stays_iff_contained` — **a request that is sent stays exactly if they are.**
-/

namespace FlowRuns

open Url

/-- A part of the path of an endpoint. -/
inductive PathPart where
  /-- a fixed word -/
  | word (word : String)
  /-- an identifier that the caller gives -/
  | identifier (id : String)

namespace PathPart

/-- The text of a part. -/
def text : PathPart → List Char
  | word w => w.toList
  | identifier id => id.toList

/-- A segment is what a part should become: the word itself, or one that reads as the identifier. -/
def FilledBy : PathPart → List Char → Prop
  | word w, s => s = w.toList
  | identifier id, s => Text.percentDecode s = Text.bytes id.toList

/-- Segments are what parts should become, one each. -/
def AllFilledBy : List PathPart → List (List Char) → Prop
  | [], [] => True
  | p :: ps, s :: ss => p.FilledBy s ∧ AllFilledBy ps ss
  | _, _ => False

end PathPart

/-- A call that puts identifiers into a path. -/
inductive PathCall where
  /-- a flow run -/
  | flowRun (flowRunId : String)
  /-- a page of the log of a flow run -/
  | logPage (page : PageRequest)
  /-- a deployment -/
  | deployment (deploymentId : String)
  /-- a flow run of a deployment is started -/
  | startFlowRun (deploymentId : String)
  /-- the schedule of a deployment is switched -/
  | setSchedule (deploymentId status : String)
  /-- a deployment is removed -/
  | deleteDeployment (deploymentId : String)

namespace PathCall

/-- What a call gives when all goes well. -/
def Value : PathCall → Type
  | flowRun _ => Json
  | logPage _ => List String
  | deployment _ => Json
  | startFlowRun _ => Json
  | setSchedule _ _ => Json
  | deleteDeployment _ => Unit

/-- The program of a call. -/
def program (c : ProxyClient) : (call : PathCall) → Program httpPeer (Except FlowError call.Value)
  | flowRun id => (c.flowRun id).program
  | logPage page => (c.logPage page).program
  | deployment id => (c.deployment id).program
  | startFlowRun id => (c.startFlowRun id).program
  | setSchedule id status => (c.setSchedule id status).program
  | deleteDeployment id => (c.deleteDeployment id).program

/-- The parts of the path of the endpoint. -/
def parts : PathCall → List PathPart
  | flowRun id => [.word "flow_runs", .identifier id]
  | logPage page => [.word "flow_runs", .word "logs", .identifier page.flowRunId]
  | deployment id => [.word "deployments", .identifier id]
  | startFlowRun id => [.word "deployments", .identifier id, .word "flow_run"]
  | setSchedule id status =>
    [.word "deployments", .identifier id, .word "set_schedule", .identifier status]
  | deleteDeployment id => [.word "deployments", .identifier id]

/-- What is wanted of the endpoint. -/
def method : PathCall → Http.Method
  | flowRun _ => .get
  | logPage _ => .get
  | deployment _ => .get
  | startFlowRun _ => .post
  | setSchedule _ _ => .post
  | deleteDeployment _ => .delete

/-- The parameters of the call itself. -/
def pairs : PathCall → List (String × String)
  | logPage page => ProxyClient.pagePairs page
  | _ => []

/-- The query of the call itself. -/
def ownQuery (call : PathCall) : Option (List Char) :=
  if call.pairs.isEmpty then none else some (Text.Form.encodePairs call.pairs)

/-- A request goes to the endpoint of the call and to nothing else. -/
structure Stays (c : ProxyClient) (call : PathCall) (r : Http.Request) : Prop where
  /-- the path is the one of the base URL, `proxy`, and a segment for each part of the endpoint -/
  path : ∃ ss, r.url.path = .segments (c.baseUrl.basePath ++ "proxy".toList :: ss) ∧
    PathPart.AllFilledBy call.parts ss
  /-- the query holds the parameters of the call and nothing else -/
  query : r.url.query = call.ownQuery

/-- The identifiers are taken for nothing else, and one at the end of the path does not end in a
blank. -/
structure Contained (call : PathCall) : Prop where
  /-- each identifier -/
  each : ∀ id, .identifier id ∈ call.parts → Unmistakable id.toList
  /-- the end of the path -/
  ending : ∀ id, call.parts.getLast? = some (.identifier id) →
    ∀ d, id.toList.getLast? = some d → isEndBlank d = false

/-- Each identifier passes the check. -/
def Accepted (call : PathCall) : Prop :=
  ∀ id, .identifier id ∈ call.parts → ∃ field, Validation.pathSegment field id = .ok ()

end PathCall

namespace ProxyClient

/-! ## What a call asks for -/

section Asks

variable {α : Type} {r : Http.Request}

/-- A call that checks an argument first. -/
theorem asks_of_check {check : Except FlowError Unit} {m : Attempt httpPeer α}
    (h : Program.Asks (P := httpPeer) r (do Attempt.ofExcept check; m).run) :
    check = .ok () ∧ Program.Asks (P := httpPeer) r m.run := by
  rw [Program.runExcept_bind] at h
  cases check with
  | error e => exact (Program.not_asks_done h).elim
  | ok u => exact ⟨rfl, h⟩

/-- A call that goes on without asking for anything. -/
theorem asks_of_bind {β : Type} {m : Attempt httpPeer α} {f : α → Attempt httpPeer β}
    (hf : ∀ a, ¬ Program.Asks (P := httpPeer) r (f a).run)
    (h : Program.Asks (P := httpPeer) r (m >>= f).run) : Program.Asks (P := httpPeer) r m.run := by
  rw [Program.runExcept_bind] at h
  refine h.of_bind.resolve_right fun ⟨a, ha⟩ => ?_
  cases a with
  | ok a => exact hf a ha
  | error e => exact Program.not_asks_done ha

/-- Reporting and then failing asks for nothing. -/
theorem not_asks_note_fail (e : Event) (error : FlowError) :
    ¬ Program.Asks (P := httpPeer) r
      (do Attempt.note e; Attempt.fail error : Attempt httpPeer α).run := fun h => by
  rw [Program.runExcept_bind] at h
  exact Program.not_asks_done (Program.asks_report_iff.1 h)

theorem not_asks_ofExcept (value : Except FlowError α) :
    ¬ Program.Asks (P := httpPeer) r (Attempt.ofExcept value : Attempt httpPeer α).run := fun h => by
  cases value with
  | ok a => exact Program.not_asks_done h
  | error e => exact Program.not_asks_done h

/-- **One exchange** asks for the request that its arguments make, if they make one. -/
theorem asks_send {c : ProxyClient} {method : Http.Method} {endpoint : String}
    {pairs : List (String × String)} {payload : Option Json} {timeout : Option UInt64}
    (h : Program.Asks (P := httpPeer) r (c.send method endpoint pairs payload timeout).run) :
    c.request method endpoint pairs payload timeout = .ok r := by
  unfold send at h
  rw [Program.runExcept_bind] at h
  replace h := Program.asks_report_iff.1 h
  cases hrequest : c.request method endpoint pairs payload timeout with
  | error fault =>
    rw [hrequest] at h
    exact (not_asks_note_fail _ _ h).elim
  | ok request =>
    rw [hrequest] at h
    have hask := asks_of_bind (m := Attempt.ask (P := httpPeer) request) (r := r) ?_ h
    · cases hask with
      | now => rfl
      | later a ha => exact (Program.not_asks_done ha).elim
    · -- whatever the reply, there are only reports left
      intro reply hreply
      cases reply with
      | none => exact not_asks_note_fail _ _ hreply
      | answer status body =>
        dsimp only at hreply
        split at hreply
        · exact not_asks_ofExcept _ hreply
        · exact not_asks_note_fail _ _ hreply

end Asks

end ProxyClient

namespace PathCall

/-- Identifiers that are accepted, and the request for the endpoint that the parts write. -/
theorem request_of_asks {c : ProxyClient} {call : PathCall} {r : Http.Request}
    (h : Program.Asks (P := httpPeer) r (call.program c)) :
    call.Accepted ∧ ∃ endpoint payload, endpoint.toList = joined (call.parts.map PathPart.text) ∧
      c.request call.method endpoint call.pairs payload none = .ok r := by
  cases call with
  | flowRun id =>
    obtain ⟨hid, h⟩ := ProxyClient.asks_of_check (m := c.get _ [] none) h
    refine ⟨fun i hi => ?_, _, _, ?_, ProxyClient.asks_send h⟩
    · obtain rfl : i = id := by simpa [parts] using hi
      exact ⟨_, hid⟩
    · simp [parts, joined, PathPart.text]
  | logPage page =>
    change Program.Asks (P := httpPeer) r (c.logPage page).run at h
    unfold ProxyClient.logPage at h
    obtain ⟨hid, h⟩ := ProxyClient.asks_of_check h
    -- the answer is only looked at
    replace h := ProxyClient.asks_of_bind (fun answer ha => by
      split at ha
      · exact Program.not_asks_done ha
      · exact Program.not_asks_done ha) h
    refine ⟨fun i hi => ?_, _, _, ?_, ProxyClient.asks_send h⟩
    · obtain rfl : i = page.flowRunId := by simpa [parts] using hi
      exact ⟨_, hid⟩
    · simp [parts, joined, PathPart.text, Logs.endpoint]
  | deployment id =>
    obtain ⟨hid, h⟩ := ProxyClient.asks_of_check (m := c.get _ [] none) h
    refine ⟨fun i hi => ?_, _, _, ?_, ProxyClient.asks_send h⟩
    · obtain rfl : i = id := by simpa [parts] using hi
      exact ⟨_, hid⟩
    · simp [parts, joined, PathPart.text]
  | startFlowRun id =>
    obtain ⟨hid, h⟩ := ProxyClient.asks_of_check (m := c.post _ ProxyClient.emptyObject none) h
    refine ⟨fun i hi => ?_, _, _, ?_, ProxyClient.asks_send h⟩
    · obtain rfl : i = id := by simpa [parts] using hi
      exact ⟨_, hid⟩
    · simp [parts, joined, PathPart.text]
  | setSchedule id status =>
    obtain ⟨hid, h⟩ := ProxyClient.asks_of_check (m := do
      Attempt.ofExcept (Validation.pathSegment "status" status)
      c.post _ ProxyClient.emptyObject none) h
    obtain ⟨hstatus, h⟩ := ProxyClient.asks_of_check (m := c.post _ ProxyClient.emptyObject none) h
    refine ⟨fun i hi => ?_, _, _, ?_, ProxyClient.asks_send h⟩
    · obtain rfl | rfl : i = id ∨ i = status := by simpa [parts] using hi
      · exact ⟨_, hid⟩
      · exact ⟨_, hstatus⟩
    · simp [parts, joined, PathPart.text]
  | deleteDeployment id =>
    obtain ⟨hid, h⟩ := ProxyClient.asks_of_check (m := do let _ ← c.delete _ none) h
    replace h := ProxyClient.asks_of_bind (fun _ ha => Program.not_asks_done ha) h
    refine ⟨fun i hi => ?_, _, _, ?_, ProxyClient.asks_send h⟩
    · obtain rfl : i = id := by simpa [parts] using hi
      exact ⟨_, hid⟩
    · simp [parts, joined, PathPart.text]

/-! ## The parts of an endpoint -/

/-- The words of all endpoints. -/
def words : List String := ["flow_runs", "logs", "deployments", "flow_run", "set_schedule"]

theorem mem_words {call : PathCall} {w : String} (h : .word w ∈ call.parts) : w ∈ words := by
  cases call <;>
    simp only [parts, words, List.mem_cons, List.not_mem_nil, PathPart.word.injEq, reduceCtorEq,
      or_false, false_or] at h ⊢ <;>
    grind

/-- A word is taken for nothing else, does not end in a blank, and stands for itself. -/
theorem word_spec {w : String} (h : w ∈ words) : Unmistakable w.toList ∧
    (∀ d, w.toList.getLast? = some d → isEndBlank d = false) ∧
    Text.percentEncode .path w.toList = w.toList := by
  have hall : ∀ w ∈ words, Unmistakable w.toList ∧ w.toList.getLast?.any isEndBlank = false ∧
      Text.percentEncode .path w.toList = w.toList := by decide
  obtain ⟨hunmistakable, hend, hencode⟩ := hall w h
  exact ⟨hunmistakable, fun d hd => by rwa [hd] at hend, hencode⟩

/-- An endpoint begins with a word. -/
theorem head_joined_parts (call : PathCall) :
    ∀ d, (joined (call.parts.map PathPart.text)).head? = some d → d ≠ '/' := by
  intro d hd
  obtain ⟨w, q, qs, hparts⟩ : ∃ w q qs, call.parts = .word w :: q :: qs := by
    cases call <;> exact ⟨_, _, _, rfl⟩
  have hhead : ∀ w ∈ words, w.toList.head?.any (· ≠ '/') = true := by decide
  obtain ⟨e, he, hne⟩ :=
    (Option.any_eq_true _ _).1 (hhead w (mem_words (hparts ▸ List.mem_cons_self)))
  rw [hparts, List.map_cons, List.map_cons, joined_cons_cons, PathPart.text,
    List.head?_append, he] at hd
  obtain rfl := Option.some.inj hd
  exact of_decide_eq_true hne

/-- The identifiers are taken for nothing else exactly if the parts of the endpoint are. -/
theorem contained_iff_unblurred {call : PathCall} :
    call.Contained ↔ Unblurred (call.parts.map PathPart.text) := by
  constructor
  · intro h
    refine ⟨fun s hs => ?_, fun s hs => ?_⟩
    · obtain ⟨p, hp, rfl⟩ := List.mem_map.1 hs
      cases p with
      | word w => exact (word_spec (mem_words hp)).1
      | identifier id => exact h.each id hp
    · rw [List.getLast?_map, Option.map_eq_some_iff] at hs
      obtain ⟨p, hp, rfl⟩ := hs
      cases p with
      | word w => exact (word_spec (mem_words (List.mem_of_getLast? hp))).2.1
      | identifier id => exact h.ending id hp
  · intro h
    refine ⟨fun id hid => h.each _ (List.mem_map_of_mem hid), fun id hid => h.ending _ ?_⟩
    rw [List.getLast?_map, hid]
    rfl

/-! ## Segments for parts -/

/-- Segments that are what the parts should become read as the parts. -/
theorem map_percentDecode_of_filled {parts : List PathPart}
    (hwords : ∀ w, .word w ∈ parts → w ∈ words) {ss : List (List Char)}
    (h : PathPart.AllFilledBy parts ss) :
    ss.map Text.percentDecode = (parts.map PathPart.text).map Text.bytes := by
  induction parts generalizing ss with
  | nil =>
    cases ss with
    | nil => rfl
    | cons s ss => exact h.elim
  | cons p ps ih =>
    cases ss with
    | nil => exact h.elim
    | cons s ss =>
      obtain ⟨hp, hps⟩ := h
      have hhead : Text.percentDecode s = Text.bytes p.text := by
        cases p with
        | word w =>
          obtain rfl := hp
          exact Text.percentDecode_eq_bytes (word_spec (hwords w List.mem_cons_self)).1.noEscape
        | identifier id => exact hp
      rw [List.map_cons, hhead, ih (fun w hw => hwords w (List.mem_cons_of_mem p hw)) hps]
      rfl

/-- Parts that are taken for nothing else become what they should, when they are encoded. -/
theorem filled_map_percentEncode {parts : List PathPart}
    (hwords : ∀ w, .word w ∈ parts → w ∈ words)
    (h : ∀ id, .identifier id ∈ parts → Unmistakable id.toList) :
    PathPart.AllFilledBy parts ((parts.map PathPart.text).map (Text.percentEncode .path)) := by
  induction parts with
  | nil => trivial
  | cons p ps ih =>
    refine ⟨?_, ih (fun w hw => hwords w (List.mem_cons_of_mem p hw))
      fun id hid => h id (List.mem_cons_of_mem p hid)⟩
    cases p with
    | word w => exact (word_spec (hwords w List.mem_cons_self)).2.2
    | identifier id =>
      change Text.percentDecode (Text.percentEncode .path id.toList) = _
      rw [Text.percentDecode_percentEncode Text.PercentSet.path_sparesEscapes,
        Text.percentDecode_eq_bytes (h id List.mem_cons_self).noEscape]

/-! ## The requests that are sent -/

/-- **A request that is sent stays exactly if the identifiers are taken for nothing else.** For every
client whose base URL was read from a text and has neither query nor fragment, and for each of the six
calls: the identifiers of a request that is sent were accepted, and the request goes to the endpoint
that the call names, and to nothing else, exactly if they hold no query, fragment, backslash or line
end, are no dots alone, hold no escape, and at the end of the path do not end in a blank. -/
theorem sent_stays_iff_contained {c : ProxyClient} {t : List Char}
    (hbase : Url.parse t = .ok c.baseUrl) (hquery : c.baseUrl.query = none)
    (hfragment : c.baseUrl.fragment = none) (call : PathCall) {σ : Type}
    (serve : (r : httpPeer.Request) → σ → httpPeer.Answer r × σ) (s : σ) (r : Http.Request)
    (hr : r ∈ ((call.program c).run (Program.recording serve) (s, [])).state.2) :
    call.Accepted ∧ (call.Stays c r ↔ call.Contained) := by
  have hasks : Program.Asks (P := httpPeer) r (call.program c) :=
    (Program.Asks.of_mem_run hr).resolve_left List.not_mem_nil
  obtain ⟨haccepted, endpoint, payload, hendpoint, hrequest⟩ := request_of_asks hasks
  obtain ⟨hpath, hown⟩ := ProxyClient.request_path hbase hquery hfragment
    (hendpoint ▸ head_joined_parts call) hrequest
  rw [hendpoint] at hpath hown
  have hparts : call.parts.map PathPart.text ≠ [] := by cases call <;> simp [parts]
  refine ⟨haccepted, fun ⟨⟨ss, hss, hfilled⟩, _⟩ => ?_, fun h => ?_⟩
  · -- the path of the request is known, so its segments can only be those that the call asks for
    refine contained_iff_unblurred.2
      ((reads_iff hparts (c.baseUrl.basePath ++ ["proxy".toList]).reverse).1 ⟨ss, ?_,
        map_percentDecode_of_filled (fun w => mem_words) hfilled⟩)
    rw [hpath] at hss
    rw [Path.segments.inj hss]
    simp
  · have hunblurred := contained_iff_unblurred.1 h
    refine ⟨⟨_, ?_, filled_map_percentEncode (fun w => mem_words) h.each⟩, ?_⟩
    · rw [hpath, resolve_of_unblurred hparts hunblurred]
      simp
    · exact hown (by rw [cutTail_of_unblurred hunblurred])

/-- A deployment with a space in its identifier is asked for below the path of the base URL, and stays. -/
theorem sent_stays_iff_contained_space :
    let c : ProxyClient := ⟨⟨"http".toList, some ⟨[], [], .domain "proxy".toList, none⟩,
      .segments ["base".toList, []], none, none⟩, none, 30, 60⟩
    let serve (_ : httpPeer.Request) (s : Nat) : Http.Reply × Nat := (.none, s + 1)
    let call : PathCall := .deployment "one two"
    Url.parse "http://proxy/base/".toList = .ok c.baseUrl ∧
      ∃ r, ((call.program c).run (Program.recording serve) (0, [])).state.2 = [r] ∧ call.Stays c r := by
  intro c serve call
  have hbase : Url.parse "http://proxy/base/".toList = .ok c.baseUrl := rfl
  have hlength :
      ((call.program c).run (Program.recording (P := httpPeer) serve) (0, [])).state.2.length = 1 := by
    decide +kernel
  obtain ⟨r, hr⟩ := List.length_eq_one_iff.1 hlength
  have hcontained : call.Contained := by
    refine ⟨fun id hid => ?_, fun id hid => ?_⟩
    · obtain rfl : id = "one two" := by simpa [call, parts] using hid
      decide
    · obtain rfl : "one two" = id := by simpa [call, parts] using hid
      intro d hd
      obtain rfl : 'o' = d := Option.some.inj hd
      decide
  refine ⟨hbase, r, hr,
    (sent_stays_iff_contained hbase rfl rfl call serve 0 r ?_).2.2 hcontained⟩
  rw [hr]
  exact List.mem_cons_self

/-- A question mark in the identifier of a flow run is accepted, and the query of the request for the
log begins with what follows it. -/
theorem not_stays_questionMark :
    let c : ProxyClient := ⟨⟨"http".toList, some ⟨[], [], .domain "proxy".toList, none⟩,
      .segments [[]], none, none⟩, none, 30, 60⟩
    let serve (_ : httpPeer.Request) (s : Nat) : Http.Reply × Nat := (.none, s + 1)
    let call : PathCall := .logPage ⟨"a?b", none, 2, 0⟩
    call.Accepted ∧ ∃ r,
      ((call.program c).run (Program.recording serve) (0, [])).state.2 = [r] ∧
        r.url.query = some "b&offset=0&limit=2".toList ∧ ¬ call.Stays c r := by
  intro c serve call
  have hqueries : ((call.program c).run (Program.recording (P := httpPeer) serve) (0, [])).state.2.map
      (fun r : Http.Request => r.url.query) = [some "b&offset=0&limit=2".toList] := by
    decide +kernel
  obtain ⟨r, hr, hquery⟩ := List.map_eq_singleton_iff.1 hqueries
  refine ⟨fun id hid => ?_, r, hr, hquery, fun h => ?_⟩
  · obtain rfl : id = "a?b" := by simpa [call, parts] using hid
    exact ⟨"flow_run_id", rfl⟩
  · have hown := h.query.symm.trans hquery
    revert hown
    decide +kernel

end PathCall

end FlowRuns
