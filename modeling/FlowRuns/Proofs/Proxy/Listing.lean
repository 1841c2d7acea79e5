import FlowRuns.Proofs.Proxy.Answers
import FlowRuns.Proofs.Proxy.Report
import FlowRuns.Proofs.Proxy.Sync

/-!
# The flow runs that are listed

A success of the proxy lists flow runs, or it does not; and if it does, either each of them stands for a run,
or the first one that does not is told.

* `ProxyClient.ListsReports`, `ProxyClient.list_eq_ok_iff` — the reports in an answer.
* `ProxyClient.runsIn_eq_ok_iff_standsFor`, `ProxyClient.runsIn_eq_error_iff_offends` — the runs in an answer,
  and the fault of an answer that lists reports.
* `ProxyClient.flowRunsOf_listed` — **the call.**
-/

namespace FlowRuns

namespace ProxyClient

/-- An answer is an object whose `flow_runs` are a sequence of values that are read as reports. -/
def ListsReports (answer : Json) (reports : List ReportedRun) : Prop :=
  ∃ elements, answer.get? "flow_runs" = some (.array elements) ∧
    List.Forall₂ ReportedRun.ReadFrom elements reports

section Answer

variable {answer : Json} {id : String} {reports : List ReportedRun}

/-- The elements of a sequence in order are read as reports one by one. -/
theorem mapM_decoder_eq_ok_iff {elements : List Json} (h : (Json.array elements).Ordered) :
    elements.mapM ReportedRun.decoder = .ok reports ↔
      List.Forall₂ ReportedRun.ReadFrom elements reports := by
  cases h with
  | array hordered =>
    rw [mapM_eq_ok_iff]
    induction elements generalizing reports with
    | nil => simp
    | cons element elements ih =>
      simp only [List.forall₂_cons_left_iff, ih fun e he => hordered e (List.mem_cons_of_mem element he),
        ReportedRun.decoder_eq_ok_iff (hordered element List.mem_cons_self)]

/-- **The reports** in an answer in order. -/
theorem list_eq_ok_iff (h : answer.Ordered) : ListsReports answer reports ↔
    ∃ j, answer.get? "flow_runs" = some j ∧ Decoder.list ReportedRun.decoder j = .ok reports := by
  constructor
  · rintro ⟨elements, helements, hreports⟩
    exact ⟨_, helements, (mapM_decoder_eq_ok_iff (h.get? helements)).2 hreports⟩
  · rintro ⟨j, hj, hreports⟩
    cases j with
    | array elements => exact ⟨elements, hj, (mapM_decoder_eq_ok_iff (h.get? hj)).1 hreports⟩
    | _ => cases hreports

/-- What is found in an answer that lists reports is what comes of them. -/
theorem runsIn_of_listsReports (h : answer.Ordered) (hreports : ListsReports answer reports) :
    runsIn id answer = reports.mapM (ReportedRun.toRun id) := by
  obtain ⟨j, hj, hlist⟩ := (list_eq_ok_iff h).1 hreports
  rw [runsIn, hj]
  dsimp only
  rw [hlist]

/-- **The runs in an answer** are those that the reports in it stand for. -/
theorem runsIn_eq_ok_iff_standsFor (h : answer.Ordered) {runs : List Run} :
    runsIn id answer = .ok runs ↔ ∃ reports, ListsReports answer reports ∧
      List.Forall₂ (ReportedRun.StandsFor id) reports runs := by
  have hstands (reports : List ReportedRun) : reports.mapM (ReportedRun.toRun id) = .ok runs ↔
      List.Forall₂ (ReportedRun.StandsFor id) reports runs := by
    simp only [mapM_eq_ok_iff, ReportedRun.toRun_eq_ok_iff]
  constructor
  · intro hruns
    obtain ⟨elements, reports, helements, hreports, -⟩ := runsIn_eq_ok_iff.1 hruns
    have hlists : ListsReports answer reports :=
      (list_eq_ok_iff h).2 ⟨_, helements, mapM_eq_ok_iff.2 hreports⟩
    rw [runsIn_of_listsReports h hlists] at hruns
    exact ⟨reports, hlists, (hstands reports).1 hruns⟩
  · rintro ⟨reports, hlists, hruns⟩
    rw [runsIn_of_listsReports h hlists]
    exact (hstands reports).2 hruns

/-- **The fault** of an answer that lists reports is that of the first report that is not usable. -/
theorem runsIn_eq_error_iff_offends (h : answer.Ordered) (hreports : ListsReports answer reports)
    {fault : ResponseFault} : runsIn id answer = .error fault ↔ ∃ before report after,
      reports = before ++ report :: after ∧ (∀ r ∈ before, r.Usable) ∧ report.Offends fault := by
  simp only [runsIn_of_listsReports h hreports, mapM_eq_error_iff, ReportedRun.usable_iff id,
    ReportedRun.toRun_eq_error_iff]

/-- There are runs in an answer exactly if it lists reports all of which are usable. -/
theorem exists_runsIn_iff (h : answer.Ordered) : (∃ runs, runsIn id answer = .ok runs) ↔
    ∃ reports, ListsReports answer reports ∧ ∀ report ∈ reports, report.Usable := by
  constructor
  · rintro ⟨runs, hruns⟩
    obtain ⟨reports, hlists, hstand⟩ := (runsIn_eq_ok_iff_standsFor h).1 hruns
    refine ⟨reports, hlists, fun report hreport => ?_⟩
    obtain ⟨run, hrun⟩ := usable_of_forall₂ (hstand.imp fun _ _ => ReportedRun.toRun_eq_ok_iff.2) report hreport
    exact (ReportedRun.usable_iff id).2 ⟨run, hrun⟩
  · rintro ⟨reports, hlists, husable⟩
    obtain ⟨runs, hruns⟩ := exists_forall₂_of_usable fun report hreport =>
      (ReportedRun.usable_iff id).1 (husable report hreport)
    exact ⟨runs, (runsIn_eq_ok_iff_standsFor h).2
      ⟨reports, hlists, hruns.imp fun _ _ => ReportedRun.toRun_eq_ok_iff.1⟩⟩

end Answer

/-! ## The call -/

/-- The value of a body is in order. -/
theorem ordered_of_denotes {bytes : List UInt8} {answer : Json} (h : ProxyCall.Denotes bytes answer) :
    answer.Ordered := by
  obtain ⟨-, rfl⟩ | ⟨-, h⟩ := h
  · exact .null
  · exact Json.ordered_of_ofBytes? h

/-- A success with a body that denotes a value comes to that value. -/
theorem replyValue_of_denotes {endpoint : String} {status : Nat} (hstatus : 200 ≤ status ∧ status < 300)
    {bytes : List UInt8} {answer : Json} (h : ProxyCall.Denotes bytes answer) :
    replyValue endpoint (.answer status (.complete bytes)) = .ok answer := by
  rw [replyValue, if_pos (ProxyCall.isSuccess_iff.2 hstatus)]
  obtain ⟨rfl, rfl⟩ | ⟨hne, h⟩ := h
  · rfl
  · cases bytes with
    | nil => exact absurd rfl hne
    | cons b bytes =>
      unfold acceptedValue
      dsimp only
      rw [h]

/-- **The flow runs of a deployment**, for every success of the proxy with a JSON value in its body. There are
runs exactly if the value is an object whose `flow_runs` are a sequence of values that are read as reports,
and each report has a time and a known state. Then there is one run for each report, in their order, and it is
the one that the report stands for. Else there is an error about the response, after which the same call
cannot succeed later; and if the value lists reports, then the error is that of the first one which is not
usable. -/
theorem flowRunsOf_listed (c : ProxyClient) (q : FlowRunsRequest)
    (hid : Text.isBlank q.deploymentId = false) {σ : Type}
    (serve : (r : httpPeer.Request) → σ → httpPeer.Answer r × σ) (s : σ) {r : Http.Request}
    (hr : c.flowRunsRequest q = .ok r) {status : Nat} (hstatus : 200 ≤ status ∧ status < 300)
    {bytes : List UInt8} (hreply : (serve r s).1 = .answer status (.complete bytes)) {answer : Json}
    (hbytes : ProxyCall.Denotes bytes answer) :
    let result := ((c.flowRunsOf q).program.run serve s).result
    ((∃ runs, result = .ok runs) ↔
      ∃ reports, ListsReports answer reports ∧ ∀ report ∈ reports, report.Usable) ∧
    (∀ runs, result = .ok runs ↔ ∃ reports, ListsReports answer reports ∧
      List.Forall₂ (ReportedRun.StandsFor q.deploymentId) reports runs) ∧
    (∀ e, result = .error e → e.isRetryable = false ∧
      ∃ fault, e = .remote (.invalidResponse "flow_runs" fault)) ∧
    (∀ reports, ListsReports answer reports → ∀ fault,
      result = .error (.remote (.invalidResponse "flow_runs" fault)) ↔ ∃ before report after,
        reports = before ++ report :: after ∧ (∀ r ∈ before, r.Usable) ∧ report.Offends fault) := by
  intro result
  have hordered := ordered_of_denotes hbytes
  have hresult : result = (runsIn q.deploymentId answer).mapError fun fault =>
      .remote (.invalidResponse "flow_runs" fault) := by
    have hserved : result = runsOfValue q.deploymentId (replyValue "flow_runs" (serve r s).1) :=
      congrArg Prod.fst (serveFlowRuns_of_made hid hr)
    rw [hserved, hreply, replyValue_of_denotes hstatus hbytes, runsOfValue]
  have hok (runs : List Run) : result = .ok runs ↔ runsIn q.deploymentId answer = .ok runs := by
    rw [hresult]
    cases runsIn q.deploymentId answer <;> simp [Except.mapError]
  have herror (fault : ResponseFault) : result = .error (.remote (.invalidResponse "flow_runs" fault)) ↔
      runsIn q.deploymentId answer = .error fault := by
    rw [hresult]
    cases runsIn q.deploymentId answer <;> simp [Except.mapError]
  refine ⟨?_, fun runs => (hok runs).trans (runsIn_eq_ok_iff_standsFor hordered), fun e he => ?_,
    fun reports hreports fault => (herror fault).trans (runsIn_eq_error_iff_offends hordered hreports)⟩
  · exact (exists_congr hok).trans (exists_runsIn_iff hordered)
  · rw [hresult] at he
    cases hruns : runsIn q.deploymentId answer with
    | ok runs =>
      rw [hruns] at he
      cases he
    | error fault =>
      rw [hruns] at he
      obtain rfl := Except.error.inj he
      exact ⟨rfl, fault, rfl⟩

/-- A report without a start time and without seconds, whose state is in lower case between blanks, and after
it one without any time. Alone the first stands for a run; together there is the fault of the second. -/
theorem flowRunsOf_listed_expected :
    let first : Json := .object [("expectedStartTime", .string "2024-01-15T04:00:00Z"), ("id", .string "a"),
      ("name", .string "n"), ("startTime", .string " "), ("status", .string " completed ")]
    let second : Json := .object [("id", .string "b"), ("name", .string "n"), ("status", .string "?")]
    let start : Instant := ⟨1705291200, 0⟩
    let c : ProxyClient := ⟨(Url.parse "http://proxy".toList).toOption.getD default, none, 30, 60⟩
    let bytes (reports : List Json) : List UInt8 :=
      Text.bytes (Json.object [("flow_runs", .array reports)]).text.toList
    let http (_ : httpPeer.Request) (reports : List Json) : Http.Reply × List Json :=
      (.answer 200 (.complete (bytes reports)), reports)
    let result (reports : List Json) :=
      ((c.flowRunsOf ⟨"dep", none⟩).program.run http reports).result
    Text.isBlank "dep" = false ∧
      result [first] = .ok [⟨"dep", "a", "n", start, start, .zero, .completed, "COMPLETED"⟩] ∧
      result [first, second] = .error (.remote (.invalidResponse "flow_runs" (.noStartTime "b"))) := by
  intro first second start c bytes http result
  have hid : Text.isBlank "dep" = false := by decide +kernel
  obtain ⟨request, hrequest⟩ : ∃ request, c.flowRunsRequest ⟨"dep", none⟩ = .ok request :=
    exists_ok_of_isSome (by decide +kernel)
  -- a body is read in two steps: its characters, and the value that they denote
  have hone : ProxyCall.Denotes (bytes [first]) (.object [("flow_runs", .array [first])]) := by
    refine .inr ⟨by decide +kernel, ?_⟩
    have hchars : Text.charsOfBytes? (bytes [first]) =
        some (Json.object [("flow_runs", .array [first])]).text.toList := by decide +kernel
    rw [Json.ofBytes?, hchars]
    cbv
  have htwo : ProxyCall.Denotes (bytes [first, second])
      (.object [("flow_runs", .array [first, second])]) := by
    refine .inr ⟨by decide +kernel, ?_⟩
    have hchars : Text.charsOfBytes? (bytes [first, second]) =
        some (Json.object [("flow_runs", .array [first, second])]).text.toList := by decide +kernel
    rw [Json.ofBytes?, hchars]
    cbv
  have hfirst : ReportedRun.ReadFrom first
      ⟨"a", "n", some " ", some "2024-01-15T04:00:00Z", .zero, " completed ", none⟩ :=
    ⟨trivial, rfl, rfl, .text " ", .text "2024-01-15T04:00:00Z", .missing, rfl, .missing⟩
  have hsecond : ReportedRun.ReadFrom second ⟨"b", "n", none, none, .zero, "?", none⟩ :=
    ⟨trivial, rfl, rfl, .missing, .missing, .missing, rfl, .missing⟩
  have hstart : ReportedRun.Dated (some "2024-01-15T04:00:00Z") start := ⟨_, rfl, by decide +kernel⟩
  have hundated (t : Instant) : ¬ ReportedRun.Dated (some " ") t := by
    rintro ⟨s, hs, ht⟩
    obtain rfl := Option.some.inj hs
    rw [Instant.ofStrict?_of_isBlank (by decide +kernel)] at ht
    cases ht
  have hmissing (t : Instant) : ¬ ReportedRun.Dated none t := by
    rintro ⟨s, hs, -⟩
    cases hs
  have hstate : Status.completed.name = Text.upperAscii (Text.trim " completed ") := by decide +kernel
  refine ⟨hid, ?_, ?_⟩
  · obtain ⟨-, hok, -⟩ := flowRunsOf_listed c ⟨"dep", none⟩ hid http [first] hrequest
      (by decide) rfl hone
    refine (hok _).2 ⟨_, ⟨_, rfl, .cons hfirst .nil⟩, .cons ?_ .nil⟩
    exact ⟨rfl, rfl, rfl, .inr ⟨hundated, hstart⟩, .inl hstart, rfl, hstate, rfl⟩
  · obtain ⟨-, -, -, hfault⟩ := flowRunsOf_listed c ⟨"dep", none⟩ hid http [first, second] hrequest
      (by decide) rfl htwo
    refine (hfault _ ⟨_, rfl, .cons hfirst (.cons hsecond .nil)⟩ _).2 ⟨[_], _, [], rfl, ?_,
      .noStartTime hmissing hmissing⟩
    exact List.forall_mem_singleton.2 ⟨⟨start, .inr hstart⟩, ⟨.completed, hstate⟩⟩

end ProxyClient

end FlowRuns
