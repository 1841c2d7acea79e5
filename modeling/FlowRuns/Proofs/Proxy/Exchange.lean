import Mathlib.Data.List.Forall2
import FlowRuns.Proxy.Client
import FlowRuns.Proofs.Program

/-!
# What comes of an exchange

An exchange with the proxy comes to a value or an error, and the reply alone decides which. A call that
lists flow runs reads them from that value, one by one, and gives all of them or none.

* `ProxyClient.replyValue`, `ProxyClient.run_send_of_made` — an exchange by its reply.
* `ProxyClient.runsOfValue`, `ProxyClient.serveFlowRuns_of_made` — the flow runs of a deployment by the
  reply.
* `ProxyClient.Lists`, `ProxyClient.runsOfValue_eq_ok_iff` — **the runs that are given**: those of all
  reports that the reply lists, if every one of them stands for a run.
-/

namespace FlowRuns

/-- A list is mapped exactly if each element is. -/
theorem mapM_eq_ok_iff {ε α β : Type} {f : α → Except ε β} {as : List α} {bs : List β} :
    as.mapM f = .ok bs ↔ List.Forall₂ (fun a b => f a = .ok b) as bs := by
  induction as generalizing bs with
  | nil =>
    rw [List.mapM_nil, List.forall₂_nil_left_iff]
    exact ⟨fun h => (Except.ok.inj h).symm, fun h => congrArg Except.ok h.symm⟩
  | cons a as ih =>
    rw [List.mapM_cons, List.forall₂_cons_left_iff]
    cases ha : f a with
    | error e => exact ⟨nofun, fun ⟨b, rest, hb, _⟩ => nomatch hb⟩
    | ok b =>
      cases has : as.mapM f with
      | error e =>
        refine ⟨nofun, fun ⟨b', rest, _, hrest, _⟩ => ?_⟩
        cases has.symm.trans (ih.2 hrest)
      | ok rest =>
        constructor
        · intro h
          exact ⟨b, rest, rfl, ih.1 has, (Except.ok.inj h).symm⟩
        · rintro ⟨b', rest', hb, hrest, rfl⟩
          obtain rfl := Except.ok.inj hb
          obtain rfl := Except.ok.inj (has.symm.trans (ih.2 hrest))
          rfl

/-- A list is not mapped exactly if some element is not, and the error is that of the first such one. -/
theorem mapM_eq_error_iff {ε α β : Type} {f : α → Except ε β} {as : List α} {e : ε} :
    as.mapM f = .error e ↔ ∃ before a after, as = before ++ a :: after ∧
      (∀ b ∈ before, ∃ c, f b = .ok c) ∧ f a = .error e := by
  induction as with
  | nil => exact ⟨nofun, fun ⟨_, _, _, h, _⟩ => absurd h.symm (List.append_ne_nil_of_right_ne_nil _ nofun)⟩
  | cons a as ih =>
    rw [List.mapM_cons]
    cases ha : f a with
    | error e' =>
      constructor
      · intro h
        obtain rfl := Except.error.inj h
        exact ⟨[], a, as, rfl, nofun, ha⟩
      · rintro ⟨before, b, after, hsplit, hbefore, hb⟩
        cases before with
        | nil =>
          obtain ⟨rfl, -⟩ := List.cons.inj hsplit
          obtain rfl := Except.error.inj (ha.symm.trans hb)
          rfl
        | cons a' before =>
          obtain ⟨rfl, -⟩ := List.cons.inj hsplit
          obtain ⟨c, hc⟩ := hbefore _ List.mem_cons_self
          cases ha.symm.trans hc
    | ok c =>
      have hrest : (do let b ← Except.ok c; let bs ← as.mapM f; pure (b :: bs) : Except ε (List β)) =
          .error e ↔ as.mapM f = .error e := by
        cases as.mapM f with
        | error e' => exact Iff.rfl
        | ok bs => exact ⟨nofun, nofun⟩
      refine hrest.trans (ih.trans ⟨?_, ?_⟩)
      · rintro ⟨before, b, after, rfl, hbefore, hb⟩
        exact ⟨a :: before, b, after, rfl, List.forall_mem_cons.2 ⟨⟨c, ha⟩, hbefore⟩, hb⟩
      · rintro ⟨before, b, after, hsplit, hbefore, hb⟩
        cases before with
        | nil =>
          obtain ⟨rfl, -⟩ := List.cons.inj hsplit
          cases ha.symm.trans hb
        | cons a' before =>
          obtain ⟨rfl, rfl⟩ := List.cons.inj hsplit
          exact ⟨before, b, after, rfl, (List.forall_mem_cons.1 hbefore).2, hb⟩

/-- No value begins at the end of a text. -/
theorem Json.value?_nil (depth : Nat) : Json.value? depth [] = none := by
  rw [Json.value?]
  simp [Json.skip]

/-- The empty body denotes no value. -/
theorem Json.ofBytes?_nil : Json.ofBytes? [] = none := by
  have hchars : Text.charsOfBytes? [] = some [] := rfl
  rw [Json.ofBytes?, hchars]
  change Json.ofChars? [] = none
  rw [Json.ofChars?, Json.value?_nil]

namespace ProxyClient

/-! ## One exchange -/

/-- What a reply comes to. -/
def replyValue (endpoint : String) : Http.Reply → Except FlowError Json
  | .none => .error (.remote .connection)
  | .answer status body =>
    if Http.isSuccess status then acceptedValue endpoint body
    else .error (.remote (.status status (refusalText body)))

/-- What follows a reply: it is reported if it is no success, and that is all. -/
def replied (method endpoint url : String) (request : Http.Request) (reply : Http.Reply) :
    Program httpPeer (Except FlowError Json) :=
  match reply with
  | .none => .report (.proxyUnreachable method url (unansweredText request))
      (.done (replyValue endpoint reply))
  | .answer status body =>
    if Http.isSuccess status then .done (replyValue endpoint reply)
    else .report (.proxyRefused method url (Http.statusText status) (refusalText body))
      (.done (replyValue endpoint reply))

section Exchange

variable {c : ProxyClient} {method : Http.Method} {endpoint : String} {pairs : List (String × String)}
  {payload : Option Json} {timeout : Option UInt64}

/-- An exchange whose request cannot be made. -/
theorem run_send_of_fault {fault : RequestFault}
    (h : c.request method endpoint pairs payload timeout = .error fault) :
    (c.send method endpoint pairs payload timeout).run =
      .report (.proxyRequest method.name (c.endpointText endpoint))
        (.report (.proxyUnreachable method.name (c.endpointText endpoint) fault.message)
          (.done (.error (.remote .connection)))) := by
  unfold send
  rw [h]
  rfl

/-- **An exchange as a tree**, if its request can be made: that is asked for, and its reply decides. -/
theorem run_send_of_made {r : Http.Request}
    (h : c.request method endpoint pairs payload timeout = .ok r) :
    (c.send method endpoint pairs payload timeout).run =
      .report (.proxyRequest method.name (c.endpointText endpoint))
        (.ask r (replied method.name endpoint (c.endpointText endpoint) r)) := by
  unfold send
  rw [h]
  refine congrArg (Program.report _) (congrArg (Program.ask (P := httpPeer) r)
    (funext fun (reply : Http.Reply) => ?_))
  cases reply with
  | none => rfl
  | answer status body =>
    change (if Http.isSuccess status then Attempt.ofExcept (acceptedValue endpoint body) else _ :
      Attempt httpPeer Json).run = _
    unfold replied replyValue
    dsimp only
    split
    · cases acceptedValue endpoint body with
      | ok j => rfl
      | error e => rfl
    · rfl

/-- A run of what follows a reply asks for nothing more. -/
theorem run_replied {σ : Type} (serve : (r : httpPeer.Request) → σ → httpPeer.Answer r × σ) (s : σ)
    (method endpoint url : String) (r : Http.Request) (reply : Http.Reply) :
    (Program.run serve (replied method endpoint url r reply) s).result = replyValue endpoint reply ∧
      (Program.run serve (replied method endpoint url r reply) s).state = s := by
  cases reply with
  | none => exact ⟨rfl, rfl⟩
  | answer status body =>
    unfold replied
    dsimp only
    split
    · exact ⟨rfl, rfl⟩
    · exact ⟨rfl, rfl⟩

end Exchange

/-! ## The flow runs of a deployment -/

/-- The request for the flow runs of a deployment. -/
def flowRunsRequest (c : ProxyClient) (q : FlowRunsRequest) : Except RequestFault Http.Request :=
  c.request .get "flow_runs" (flowRunsPairs q) none (some c.flowRunsTimeoutSeconds)

/-- The exchange about the flow runs of a deployment. -/
def flowRunsExchange (c : ProxyClient) (q : FlowRunsRequest) : Program httpPeer (Except FlowError Json) :=
  (c.send .get "flow_runs" (flowRunsPairs q) none (some c.flowRunsTimeoutSeconds)).run

/-- The runs in a value that an exchange comes to, or its error. -/
def runsOfValue (deploymentId : String) : Except FlowError Json → Except FlowError (List Run)
  | .ok answer => (runsIn deploymentId answer).mapError fun fault =>
      .remote (.invalidResponse "flow_runs" fault)
  | .error e => .error e

section FlowRuns

variable {c : ProxyClient} {q : FlowRunsRequest} {σ : Type}
  {serve : (r : httpPeer.Request) → σ → httpPeer.Answer r × σ} {s : σ}

/-- One exchange, and the runs in what it comes to. -/
theorem run_flowRunsOf_of_named (h : Text.isBlank q.deploymentId = false) :
    (c.flowRunsOf q).run =
      (c.flowRunsExchange q).bind fun value => .done (runsOfValue q.deploymentId value) := by
  unfold flowRunsOf Validation.deploymentId
  rw [Validation.identifier_of_named h, Attempt.run_ofExcept_ok_bind, Program.runExcept_bind]
  refine congrArg (Program.bind _) (funext fun value => ?_)
  cases value with
  | error e => rfl
  | ok answer =>
    unfold runsOfValue
    dsimp only
    cases runsIn q.deploymentId answer with
    | ok runs => rfl
    | error fault => rfl

/-- The client as a source of flow runs makes one exchange. -/
theorem answering_serveFlowRuns (hid : Text.isBlank q.deploymentId = false) :
    Program.answering c.serveFlowRuns serve q s =
      (runsOfValue q.deploymentId ((c.flowRunsExchange q).run serve s).result,
        ((c.flowRunsExchange q).run serve s).state) := by
  have hanswer : Program.answering c.serveFlowRuns serve q s =
      ((Program.run serve (c.flowRunsOf q).run s).result,
        (Program.run serve (c.flowRunsOf q).run s).state) := rfl
  rw [hanswer, run_flowRunsOf_of_named hid, Program.run_bind_done]

/-- A source whose request cannot be made has no connection. -/
theorem serveFlowRuns_of_fault (hid : Text.isBlank q.deploymentId = false) {fault : RequestFault}
    (h : c.flowRunsRequest q = .error fault) :
    Program.answering c.serveFlowRuns serve q s = (.error (.remote .connection), s) := by
  rw [answering_serveFlowRuns hid, flowRunsExchange, run_send_of_fault h]
  rfl

/-- **The flow runs** of a deployment are those in what the reply to the request comes to. -/
theorem serveFlowRuns_of_made (hid : Text.isBlank q.deploymentId = false) {r : Http.Request}
    (h : c.flowRunsRequest q = .ok r) :
    Program.answering c.serveFlowRuns serve q s =
      (runsOfValue q.deploymentId (replyValue "flow_runs" (serve r s).1), (serve r s).2) := by
  rw [answering_serveFlowRuns hid, flowRunsExchange, run_send_of_made h]
  obtain ⟨hresult, hstate⟩ := run_replied serve (serve r s).2 Http.Method.get.name "flow_runs"
    (c.endpointText "flow_runs") r (serve r s).1
  exact Prod.ext (congrArg (runsOfValue q.deploymentId) hresult) hstate

end FlowRuns

/-! ## Reports -/

/-- The reply lists reports of flow runs: it is a success, and the value in its body has a sequence that
reads as these. -/
def Lists (reply : Http.Reply) (reports : List ReportedRun) : Prop :=
  ∃ status bytes answer elements, reply = .answer status (.complete bytes) ∧
    Http.isSuccess status = true ∧ Json.ofBytes? bytes = some answer ∧
    answer.get? "flow_runs" = some (.array elements) ∧
    List.Forall₂ (fun element report => ReportedRun.decoder element = .ok report) elements reports

theorem runsIn_eq_ok_iff {id : String} {answer : Json} {runs : List Run} :
    runsIn id answer = .ok runs ↔ ∃ elements reports, answer.get? "flow_runs" = some (.array elements) ∧
      List.Forall₂ (fun element report => ReportedRun.decoder element = .ok report) elements reports ∧
      List.Forall₂ (fun report run => report.toRun id = .ok run) reports runs := by
  unfold runsIn
  cases answer.get? "flow_runs" with
  | none => exact ⟨nofun, fun ⟨_, _, h, _⟩ => nomatch h⟩
  | some j =>
    constructor
    · intro h
      dsimp only at h
      split at h
      · cases h
      · rename_i reports hreports
        cases j with
        | array elements => exact ⟨elements, reports, rfl, mapM_eq_ok_iff.1 hreports, mapM_eq_ok_iff.1 h⟩
        | _ => cases hreports
    · rintro ⟨elements, reports, helements, hreports, hruns⟩
      obtain rfl := Option.some.inj helements
      have hlist : Decoder.list ReportedRun.decoder (.array elements) = .ok reports :=
        mapM_eq_ok_iff.2 hreports
      dsimp only
      rw [hlist]
      exact mapM_eq_ok_iff.2 hruns

/-- A body stands for a value other than `null` if it denotes that. -/
theorem acceptedValue_eq_ok_iff {endpoint : String} {bytes : List UInt8} {answer : Json}
    (hnull : answer ≠ .null) :
    acceptedValue endpoint (.complete bytes) = .ok answer ↔ Json.ofBytes? bytes = some answer := by
  cases bytes with
  | nil =>
    rw [Json.ofBytes?_nil]
    exact ⟨fun h => absurd (Except.ok.inj h).symm hnull, nofun⟩
  | cons b bytes =>
    unfold acceptedValue
    dsimp only
    cases Json.ofBytes? (b :: bytes) with
    | none => exact ⟨nofun, nofun⟩
    | some j =>
      dsimp only
      rw [Except.ok.injEq, Option.some.injEq]

/-- A reply comes to a value other than `null` if it is a success and its body denotes that. -/
theorem replyValue_eq_ok_iff {endpoint : String} {reply : Http.Reply} {answer : Json}
    (hnull : answer ≠ .null) :
    replyValue endpoint reply = .ok answer ↔ ∃ status bytes, reply = .answer status (.complete bytes) ∧
      Http.isSuccess status = true ∧ Json.ofBytes? bytes = some answer := by
  constructor
  · intro h
    cases reply with
    | none => cases h
    | answer status body =>
      rw [replyValue] at h
      split at h
      · rename_i hstatus
        cases body with
        | brokenOff => cases h
        | complete bytes => exact ⟨status, bytes, rfl, hstatus, (acceptedValue_eq_ok_iff hnull).1 h⟩
      · cases h
  · rintro ⟨status, bytes, rfl, hstatus, hbytes⟩
    rw [replyValue, if_pos hstatus]
    exact (acceptedValue_eq_ok_iff hnull).2 hbytes

/-- **The runs that are given** are those of all reports that the reply lists, and they are given if every
one of these stands for a run. -/
theorem runsOfValue_eq_ok_iff {id : String} {reply : Http.Reply} {runs : List Run} :
    runsOfValue id (replyValue "flow_runs" reply) = .ok runs ↔
      ∃ reports, Lists reply reports ∧
        List.Forall₂ (fun report run => report.toRun id = .ok run) reports runs := by
  have hnull {answer j : Json} (h : answer.get? "flow_runs" = some j) : answer ≠ .null := by
    rintro rfl
    cases h
  constructor
  · intro h
    cases hvalue : replyValue "flow_runs" reply with
    | error e =>
      rw [hvalue] at h
      cases h
    | ok answer =>
      rw [hvalue, runsOfValue] at h
      cases hruns : runsIn id answer with
      | error fault =>
        rw [hruns] at h
        cases h
      | ok runs' =>
        rw [hruns] at h
        obtain rfl := Except.ok.inj h
        obtain ⟨elements, reports, helements, hreports, hstand⟩ := runsIn_eq_ok_iff.1 hruns
        obtain ⟨status, bytes, hreply, hstatus, hbytes⟩ :=
          (replyValue_eq_ok_iff (hnull helements)).1 hvalue
        exact ⟨reports, ⟨status, bytes, answer, elements, hreply, hstatus, hbytes, helements, hreports⟩,
          hstand⟩
  · rintro ⟨reports, ⟨status, bytes, answer, elements, hreply, hstatus, hbytes, helements, hreports⟩,
      hstand⟩
    have hvalue : replyValue "flow_runs" reply = .ok answer :=
      (replyValue_eq_ok_iff (hnull helements)).2 ⟨status, bytes, hreply, hstatus, hbytes⟩
    have hruns : runsIn id answer = .ok runs :=
      runsIn_eq_ok_iff.2 ⟨elements, reports, helements, hreports, hstand⟩
    rw [hvalue, runsOfValue, hruns]
    rfl

end ProxyClient

end FlowRuns
