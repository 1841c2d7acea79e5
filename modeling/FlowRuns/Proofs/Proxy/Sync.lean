import Mathlib.Data.List.Permutation
import FlowRuns.Proofs.History.Recording
import FlowRuns.Proofs.Proxy.Exchange
import FlowRuns.Proofs.Sync

/-!
# Copying flow runs from the proxy

A sync with the proxy as its source makes one exchange and records what comes of it, all of it or nothing.
A report may be unusable wherever it stands in the list, and the exchange may fail at any point: the history
is then as it was before.

* `ReportedRun.toRun_spec` — what a report fixes of its run.
* `Synced` — what a sync that went well leaves of the stores.
* `ProxyClient.syncServer` — the proxy and the stores as the collaborators of a sync.
* `ProxyClient.sync_ok_iff` — when a sync goes well.
* `ProxyClient.sync_allOrNothing` — **any sync**, whatever the proxy replies.
-/

namespace FlowRuns

/-- The run that a report stands for has its identity, and is one of the deployment that was asked for. -/
theorem ReportedRun.toRun_spec {id : String} {report : ReportedRun} {run : Run}
    (h : report.toRun id = .ok run) : run.flowRunId = report.id ∧ run.deploymentId = id := by
  unfold toRun at h
  split at h
  · cases h
  · split at h
    · cases h
    · obtain rfl := Except.ok.inj h
      exact ⟨rfl, rfl⟩

section Reports

variable {id : String} {reports : List ReportedRun} {runs : List Run}

theorem usable_of_forall₂ (h : List.Forall₂ (fun report run => report.toRun id = .ok run) reports runs) :
    ∀ report ∈ reports, ∃ run, report.toRun id = .ok run :=
  ((List.forall₂_and_left _ _).1 (h.imp fun _ run hrun => ⟨⟨run, hrun⟩, hrun⟩)).1

theorem exists_forall₂_of_usable (h : ∀ report ∈ reports, ∃ run, report.toRun id = .ok run) :
    ∃ runs, List.Forall₂ (fun report run => report.toRun id = .ok run) reports runs := by
  induction reports with
  | nil => exact ⟨[], .nil⟩
  | cons report reports ih =>
    obtain ⟨run, hrun⟩ := h report List.mem_cons_self
    obtain ⟨runs, hruns⟩ := ih fun r hr => h r (List.mem_cons_of_mem report hr)
    exact ⟨run :: runs, .cons hrun hruns⟩

end Reports

/-- What a sync that went well leaves of the stores, for the reports that its source listed. -/
structure Synced (id : String) (reports : List ReportedRun) (before after : Stores) : Prop where
  /-- every report stands for a run -/
  usable : ∀ report ∈ reports, ∃ run, report.toRun id = .ok run
  /-- under each flow run id that is listed stands the run of its last report, one of the deployment -/
  recorded : ∀ k report, Rows.last ReportedRun.id k reports = some report →
    ∃ run, report.toRun id = .ok run ∧ run.deploymentId = id ∧ after.history.find? k = some run
  /-- under every other id stands what stood there -/
  untouched : ∀ k, k ∉ reports.map ReportedRun.id → after.history.find? k = before.history.find? k
  /-- new ids come last, in the order in which they are listed -/
  order : after.history.runs.map Run.flowRunId =
    (reports.map ReportedRun.id).foldl Rows.addKey (before.history.runs.map Run.flowRunId)
  /-- nothing but the history is changed -/
  rest : after = { before with history := after.history }

/-- Recording the runs of all reports leaves just that. -/
theorem synced_record {id : String} {reports : List ReportedRun} {runs : List Run}
    (h : List.Forall₂ (fun report run => report.toRun id = .ok run) reports runs) (s : Stores) :
    Synced id reports s { s with history := s.history.record runs } := by
  have hkey : ∀ report run, ReportedRun.toRun id report = .ok run → run.flowRunId = report.id :=
    fun report run hrun => (ReportedRun.toRun_spec hrun).1
  have hids : runs.map Run.flowRunId = reports.map ReportedRun.id := Rows.map_of_forall₂ h hkey
  refine ⟨usable_of_forall₂ h, ?_, ?_, ?_, rfl⟩
  · intro k report hlast
    obtain ⟨run, hrunlast, hrun⟩ := Rows.last_of_forall₂ h hkey hlast
    refine ⟨run, hrun, (ReportedRun.toRun_spec hrun).2, ?_⟩
    rw [MemoryHistory.find?_record, hrunlast, Option.some_or]
  · intro k hk
    rw [← hids, ← Rows.last_eq_none_iff] at hk
    rw [MemoryHistory.find?_record, hk, Option.none_or]
  · rw [MemoryHistory.map_record, hids]

namespace ProxyClient

variable {σ : Type}

/-- The proxy, through its client, and the stores as the collaborators of a sync. -/
def syncServer (c : ProxyClient) (http : (r : httpPeer.Request) → σ → httpPeer.Answer r × σ) :
    (r : syncPeer.Request) → σ × Stores → syncPeer.Answer r × (σ × Stores) :=
  Program.serveBoth (Program.answering c.serveFlowRuns http) Stores.serveHistory

section

variable (c : ProxyClient) (http : (r : httpPeer.Request) → σ → httpPeer.Answer r × σ) (w : σ)
  (s : Stores) (limit : Option UInt32) (id : String)

/-- The flow runs that the client gives as a source. -/
abbrev source : Except FlowError (List Run) × σ := Program.answering c.serveFlowRuns http ⟨id, limit⟩ w

/-- A sync against the proxy and the stores. -/
abbrev sync : Program.Outcome (σ × Stores) (Except Failure UInt64) :=
  (syncDeployment id limit).run.run (c.syncServer http) (w, s)

variable {c http w s limit id}

/-- What is asked of the history, the stores answer, and the proxy does not notice. -/
theorem syncServer_history {r : HistoryRequest} {answer : historyPeer.Answer r} {s' : Stores}
    (h : s.serveHistory r = (answer, s')) : c.syncServer http (.inr r) (w, s) = (answer, w, s') :=
  congrArg (fun a : historyPeer.Answer r × Stores => (a.1, w, a.2)) h

/-- The source is asked first. -/
theorem sync_of_named (hid : Text.isBlank id = false) :
    c.sync http w s limit id = Program.run (c.syncServer http)
      (syncing id (c.source http w limit id).1) ((c.source http w limit id).2, s) := by
  rw [sync, run_syncDeployment_of_named limit hid]
  exact Program.run_ask_of_answer (P := syncPeer) rfl

/-- Runs that the source gives are all recorded. -/
theorem sync_of_runs (hid : Text.isBlank id = false) {runs : List Run}
    (hsource : (c.source http w limit id).1 = .ok runs) (hfault : s.fault .recordRuns = none) :
    c.sync http w s limit id = ⟨.ok (MemoryHistory.batchSize runs),
      [.runsSynced id runs.length (MemoryHistory.batchSize runs)],
      ((c.source http w limit id).2, { s with history := s.history.record runs })⟩ := by
  have hserve : c.syncServer http (.inr (.record runs)) ((c.source http w limit id).2, s) =
      (Except.ok (MemoryHistory.batchSize runs), (c.source http w limit id).2,
        { s with history := s.history.record runs }) :=
    syncServer_history (Stores.serveHistory_record hfault)
  rw [sync_of_named hid, hsource]
  exact run_syncing_of_recorded hserve

/-- A sync ends with the error of the source, or of the history, and leaves the stores; or it records. -/
theorem sync_ends (c : ProxyClient) (http : (r : httpPeer.Request) → σ → httpPeer.Answer r × σ) (w : σ)
    (s : Stores) (limit : Option UInt32) (hid : Text.isBlank id = false) :
    (∃ e, ((c.source http w limit id).1 = .error e ∨ s.fault .recordRuns = some e) ∧
      c.sync http w s limit id = ⟨.error (.error e), [], ((c.source http w limit id).2, s)⟩) ∨
    ∃ runs, (c.source http w limit id).1 = .ok runs ∧ s.fault .recordRuns = none := by
  cases hsource : (c.source http w limit id).1 with
  | error e =>
    refine .inl ⟨e, .inl rfl, ?_⟩
    rw [sync_of_named hid, hsource]
    rfl
  | ok runs =>
    cases hfault : s.fault .recordRuns with
    | none => exact .inr ⟨runs, rfl, rfl⟩
    | some e =>
      have hserve : c.syncServer http (.inr (.record runs)) ((c.source http w limit id).2, s) =
          (Except.error e, (c.source http w limit id).2, s) :=
        syncServer_history (Stores.serveHistory_record_of_fault hfault)
      refine .inl ⟨e, .inr rfl, ?_⟩
      rw [sync_of_named hid, hsource]
      exact run_syncing_of_refused hserve

theorem source_of_made (hid : Text.isBlank id = false) {request : Http.Request}
    (h : c.flowRunsRequest ⟨id, limit⟩ = .ok request) :
    c.source http w limit id =
      (runsOfValue id (replyValue "flow_runs" (http request w).1), (http request w).2) :=
  serveFlowRuns_of_made hid h

/-- The source gives the runs of all reports that the reply to its request lists. -/
theorem source_eq_ok_iff (hid : Text.isBlank id = false) {runs : List Run} :
    (c.source http w limit id).1 = .ok runs ↔ ∃ request reports,
      c.flowRunsRequest ⟨id, limit⟩ = .ok request ∧ Lists (http request w).1 reports ∧
      List.Forall₂ (fun report run => report.toRun id = .ok run) reports runs := by
  cases hrequest : c.flowRunsRequest ⟨id, limit⟩ with
  | error fault =>
    rw [source, serveFlowRuns_of_fault hid hrequest]
    exact ⟨nofun, fun ⟨_, _, h, _⟩ => nomatch h⟩
  | ok request =>
    rw [source_of_made hid hrequest]
    refine runsOfValue_eq_ok_iff.trans ⟨fun ⟨reports, h⟩ => ⟨request, reports, rfl, h⟩, ?_⟩
    rintro ⟨request', reports, hsame, h⟩
    obtain rfl := Except.ok.inj hsame
    exact ⟨reports, h⟩

/-- **A sync gives a number** exactly if its request can be made, the reply lists reports each of which
stands for a run, and the history is in order. -/
theorem sync_ok_iff (hid : Text.isBlank id = false) :
    (∃ n, (c.sync http w s limit id).result = .ok n) ↔ s.fault .recordRuns = none ∧ ∃ request reports,
      c.flowRunsRequest ⟨id, limit⟩ = .ok request ∧ Lists (http request w).1 reports ∧
      ∀ report ∈ reports, ∃ run, report.toRun id = .ok run := by
  constructor
  · rintro ⟨n, hn⟩
    obtain ⟨e, -, hout⟩ | ⟨runs, hsource, hfault⟩ := sync_ends c http w s limit hid
    · rw [hout] at hn
      cases hn
    · obtain ⟨request, reports, hrequest, hlists, hruns⟩ := (source_eq_ok_iff hid).1 hsource
      exact ⟨hfault, request, reports, hrequest, hlists, usable_of_forall₂ hruns⟩
  · rintro ⟨hfault, request, reports, hrequest, hlists, husable⟩
    obtain ⟨runs, hruns⟩ := exists_forall₂_of_usable husable
    have hsource : (c.source http w limit id).1 = .ok runs :=
      (source_eq_ok_iff hid).2 ⟨request, reports, hrequest, hlists, hruns⟩
    exact ⟨_, congrArg (·.result) (sync_of_runs hid hsource hfault)⟩

end

/-- **A sync is all or nothing.** If it ends early, the stores are as they were and the error is the one of
the source, or of the history. If it gives a number, then that is how many flow runs the proxy listed; the
run of the last report under each id is stored, all other runs are as they were, and the same sync with the
same reply changes nothing more. -/
theorem sync_allOrNothing (c : ProxyClient) (http : (r : httpPeer.Request) → σ → httpPeer.Answer r × σ)
    (w : σ) (s : Stores) (limit : Option UInt32) (id : String) (hid : Text.isBlank id = false)
    (hnodup : (s.history.runs.map Run.flowRunId).Nodup) :
    let out := c.sync http w s limit id
    (∀ f, out.result = .error f → out.state.2 = s ∧ ∃ e, f = .error e ∧
      ((c.source http w limit id).1 = .error e ∨ s.fault .recordRuns = some e)) ∧
    (∀ n, out.result = .ok n → ∃ request reports, c.flowRunsRequest ⟨id, limit⟩ = .ok request ∧
      Lists (http request w).1 reports ∧ n = UInt64.ofNat reports.length ∧
      Synced id reports s out.state.2 ∧
      ∀ w', (http request w').1 = (http request w).1 →
        let again := c.sync http w' out.state.2 limit id
        again.result = .ok n ∧ again.state.2 = out.state.2) := by
  intro out
  obtain ⟨e, he, hout⟩ | ⟨runs, hsource, hfault⟩ := sync_ends c http w s limit hid
  · have hresult : out.result = .error (.error e) := congrArg (·.result) hout
    have hstores : out.state.2 = s := congrArg (·.state.2) hout
    refine ⟨fun f hf => ⟨hstores, e, (Except.error.inj (hresult.symm.trans hf)).symm, he⟩, fun n hn => ?_⟩
    cases hresult.symm.trans hn
  · have hout : out = _ := sync_of_runs hid hsource hfault
    have hresult : out.result = .ok (MemoryHistory.batchSize runs) := congrArg (·.result) hout
    have hstores : out.state.2 = { s with history := s.history.record runs } :=
      congrArg (·.state.2) hout
    obtain ⟨request, reports, hrequest, hlists, hruns⟩ := (source_eq_ok_iff hid).1 hsource
    refine ⟨fun f hf => (nomatch hresult.symm.trans hf), fun n hn => ?_⟩
    obtain rfl := Except.ok.inj (hresult.symm.trans hn)
    refine ⟨request, reports, hrequest, hlists, ?_, ?_, fun w' hreply => ?_⟩
    · rw [MemoryHistory.batchSize, hruns.length_eq]
    · rw [hstores]
      exact synced_record hruns s
    · have hsource' : (c.source http w' limit id).1 = .ok runs := by
        rw [source_of_made hid hrequest] at hsource ⊢
        rw [hreply]
        exact hsource
      have hagain := sync_of_runs (s := out.state.2) hid hsource' (by rw [hstores]; exact hfault)
      rw [hagain]
      refine ⟨rfl, ?_⟩
      rw [hstores]
      dsimp only
      rw [MemoryHistory.record_record hnodup]

theorem exists_ok_of_isSome {ε α : Type} {e : Except ε α} (h : e.toOption.isSome = true) :
    ∃ a, e = .ok a := by
  cases e with
  | ok a => exact ⟨a, rfl⟩
  | error x => cases h

/-- The proxy lists one flow run, under an id that is in the history already: its run takes the place of the
one there. -/
theorem sync_allOrNothing_replaced :
    let report : Json := .object [("id", .string "a"), ("name", .string "n"),
      ("startTime", .string "2024-01-15T04:00:00Z"), ("status", .string "COMPLETED")]
    let answer : Json := .object [("flow_runs", .array [report])]
    let c : ProxyClient := ⟨(Url.parse "http://proxy".toList).toOption.getD default, none, 30, 60⟩
    let http (_ : httpPeer.Request) (w : Unit) : Http.Reply × Unit :=
      (.answer 200 (.complete (Text.bytes answer.text.toList)), w)
    let s : Stores := .working ⟨[{ (default : Run) with flowRunId := "a" }]⟩ .empty
    let out := c.sync http () s none "dep"
    Text.isBlank "dep" = false ∧ (s.history.runs.map Run.flowRunId).Nodup ∧ out.result = .ok 1 ∧
      ∃ reports, 1 = UInt64.ofNat reports.length ∧ Synced "dep" reports s out.state.2 := by
  intro report answer c http s
  have hid : Text.isBlank "dep" = false := by decide +kernel
  have hnodup : (s.history.runs.map Run.flowRunId).Nodup := List.nodup_singleton _
  obtain ⟨request, hrequest⟩ : ∃ request, c.flowRunsRequest ⟨"dep", none⟩ = .ok request :=
    exists_ok_of_isSome (by decide +kernel)
  obtain ⟨runs, hruns⟩ : ∃ runs, runsIn "dep" answer = .ok runs := exists_ok_of_isSome (by decide +kernel)
  have hcount : (runsIn "dep" answer).toOption.map MemoryHistory.batchSize = some 1 := by decide +kernel
  rw [hruns] at hcount
  -- the body is read in two steps: its characters, and the value that they denote
  have hchars : Text.charsOfBytes? (Text.bytes answer.text.toList) = some answer.text.toList := by
    decide +kernel
  have hbytes : Json.ofBytes? (Text.bytes answer.text.toList) = some answer := by
    rw [Json.ofBytes?, hchars]
    cbv
  have hvalue : replyValue "flow_runs" (http request ()).1 = .ok answer :=
    (replyValue_eq_ok_iff (by simp [answer])).2 ⟨200, _, rfl, rfl, hbytes⟩
  have hsource : (c.source http () none "dep").1 = .ok runs := by
    refine (congrArg Prod.fst (source_of_made hid hrequest)).trans ?_
    rw [hvalue, runsOfValue, hruns]
    rfl
  have hresult : (c.sync http () s none "dep").result = .ok 1 :=
    (congrArg (·.result) (sync_of_runs hid hsource rfl)).trans
      (congrArg Except.ok (Option.some.inj hcount))
  obtain ⟨-, hok⟩ := sync_allOrNothing c http () s none "dep" hid hnodup
  obtain ⟨_, reports, -, -, hn, hsynced, -⟩ := hok 1 hresult
  exact ⟨hid, hnodup, hresult, reports, hn, hsynced⟩

end ProxyClient

end FlowRuns
