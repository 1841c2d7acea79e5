import FlowRuns.Proofs.Calendar.Timeline
import FlowRuns.Proofs.Proxy.Listing
import FlowRuns.Proofs.Text.Utf8

/-!
# When a run started

A report tells when its run started, as a text. A text of the form of internet time stamps denotes a moment in
universal time, and the run starts at it, on the day that it is in. Without a text the run starts when it was
expected to. It does so too if there is a text, but one that gives no instant: such a start is lost without an
error.

* `Run.StartsAt`, `ReportedRun.startsAt_of_denotes` — **the moment** at which a run starts.
* `ReportedRun.start_inUniversalTime` — starts in universal time, and their order.
* `ReportedRun.KeepsStart`, `ReportedRun.keepsStart_iff` — the runs that start as their reports say.
* `ProxyClient.flowRunsOf_keepsStarts_iff` — **the calls** that give only such runs, or an error.
-/

namespace FlowRuns

/-! ## Starts in universal time -/

/-- A run starts at a moment: its start is that moment, and its date the day of the calendar that the moment
is in. -/
structure Run.StartsAt (run : Run) (x : Int) : Prop where
  /-- the moment -/
  moment : run.startTime.nanos = x
  /-- it is no leap second -/
  common : run.startTime.nano < 1000000000
  /-- the day -/
  date : ∃ day, run.startDate.civil.IsDay day ∧ day * 86400000000000 ≤ x ∧ x < (day + 1) * 86400000000000

namespace Run.StartsAt

variable {run run' : Run} {x x' : Int}

theorem startTime_eq (h : run.StartsAt x) (h' : run'.StartsAt x) : run.startTime = run'.startTime :=
  Instant.eq_of_nanos_eq h.common h'.common (h.moment.trans h'.moment.symm)

theorem lt_iff (h : run.StartsAt x) (h' : run'.StartsAt x') : run.startTime < run'.startTime ↔ x < x' := by
  rw [Instant.lt_iff_nanos_lt h.common h'.common, h.moment, h'.moment]

end Run.StartsAt

namespace ReportedRun

variable {id : String} {report : ReportedRun} {run : Run} {s : String} {x : Int}

/-- A run starts at the instant that its report gives as its start. -/
theorem StandsFor.startTime_eq (h : report.StandsFor id run) (hs : report.startTime = some s) {i : Instant}
    (hi : Instant.ofStrict? s = some i) : run.startTime = i := by
  obtain ⟨s', hs', ht⟩ | ⟨hundated, -⟩ := h.startTime
  · obtain rfl := Option.some.inj (hs.symm.trans hs')
    exact Option.some.inj (ht.symm.trans hi)
  · exact absurd ⟨s, hs, hi⟩ (hundated i)

/-- **A run starts** at the moment that its report denotes. -/
theorem startsAt_of_denotes (hs : report.startTime = some s) (hx : Timestamp.Denotes s x)
    (h : report.StandsFor id run) : run.StartsAt x := by
  obtain ⟨i, hi, hmoment, hcommon⟩ := Instant.ofStrict?_of_denotes hx
  have hstart := h.startTime_eq hs hi
  refine ⟨hstart ▸ hmoment, hstart ▸ hcommon, run.startTime.date.day, Civil.isDay_iff.2 rfl, ?_⟩
  rw [hstart, ← hmoment]
  exact Instant.nanos_mem_date hcommon

/-- A usable report with a start that gives an instant and is no leap second denotes the moment at which the
run starts. -/
theorem exists_startsAt (husable : report.Usable) (hs : report.startTime = some s) {i : Instant}
    (hi : Instant.ofStrict? s = some i) (hleap : ¬ Timestamp.DenotesLeap s) (id : String) :
    ∃ run x, report.toRun id = .ok run ∧ Timestamp.Denotes s x ∧ run.StartsAt x := by
  obtain ⟨run, hrun⟩ := (usable_iff id).1 husable
  obtain ⟨x, hx⟩ := (Instant.exists_ofStrict?_iff.1 ⟨i, hi⟩).resolve_right hleap
  exact ⟨run, x, hrun, hx, startsAt_of_denotes hs hx (toRun_eq_ok_iff.1 hrun)⟩

/-- **Runs start in universal time, whatever the offset.** Let two usable reports tell starts that give
instants and are no leap seconds. Then each of the texts denotes one moment, its local time without the
offset; the run starts at that moment, on the day of the calendar that the moment is in. If the two moments
are the same, then so are the starts and the dates of the runs; and the starts are ordered as the moments
are. -/
theorem start_inUniversalTime {report report' : ReportedRun} (husable : report.Usable)
    (husable' : report'.Usable) {s s' : String} (hs : report.startTime = some s)
    (hs' : report'.startTime = some s') {i i' : Instant} (hi : Instant.ofStrict? s = some i)
    (hi' : Instant.ofStrict? s' = some i') (hleap : ¬ Timestamp.DenotesLeap s)
    (hleap' : ¬ Timestamp.DenotesLeap s') (id id' : String) :
    ∃ run run' x x', report.toRun id = .ok run ∧ report'.toRun id' = .ok run' ∧
      (∀ y, Timestamp.Denotes s y ↔ y = x) ∧ (∀ y, Timestamp.Denotes s' y ↔ y = x') ∧
      run.StartsAt x ∧ run'.StartsAt x' ∧
      (x = x' → run.startTime = run'.startTime ∧ run.startDate = run'.startDate) ∧
      (run.startTime < run'.startTime ↔ x < x') := by
  obtain ⟨run, x, hrun, hx, hstarts⟩ := exists_startsAt husable hs hi hleap id
  obtain ⟨run', x', hrun', hx', hstarts'⟩ := exists_startsAt husable' hs' hi' hleap' id'
  refine ⟨run, run', x, x', hrun, hrun', fun y => Instant.denotes_iff_eq hx,
    fun y => Instant.denotes_iff_eq hx', hstarts, hstarts', ?_, hstarts.lt_iff hstarts'⟩
  rintro rfl
  have hsame := hstarts.startTime_eq hstarts'
  exact ⟨hsame, congrArg Instant.date hsame⟩

/-- One hour of 1 March ahead of universal time, and an evening behind it: a moment of the leap day. -/
theorem start_inUniversalTime_leapDay :
    let report (start : String) : ReportedRun := ⟨"a", "n", some start, none, .zero, "COMPLETED", none⟩
    ∃ run run', (report "2024-03-01T01:00:00+02:00").toRun "dep" = .ok run ∧
      (report "2024-02-29T18:00:00.000-05:00").toRun "dep" = .ok run' ∧
      run.StartsAt 1709247600000000000 ∧ run'.StartsAt 1709247600000000000 ∧
      run.startTime = run'.startTime ∧ run.startDate = run'.startDate ∧
      run.startDate.civil = ⟨2024, 2, 29⟩ := by
  intro report
  have hread : Instant.ofStrict? "2024-03-01T01:00:00+02:00" = some ⟨1709247600, 0⟩ ∧
      Instant.ofStrict? "2024-02-29T18:00:00.000-05:00" = some ⟨1709247600, 0⟩ := by decide +kernel
  have hknown : Status.completed.name = Text.upperAscii (Text.trim "COMPLETED") := by decide +kernel
  have husable (s : String) (i : Instant) (hi : Instant.ofStrict? s = some i) : (report s).Usable :=
    ⟨⟨i, .inl ⟨s, rfl, hi⟩⟩, .completed, hknown⟩
  have hcommon (s : String) (h : (Timestamp.ofStrict? s.toList).map (·.second) = some 0) :
      ¬ Timestamp.DenotesLeap s := by
    rintro ⟨t, hwritten, -, hleap⟩
    rw [Timestamp.ofStrict?_eq_some_iff.2 hwritten, Option.map_some, hleap] at h
    cases h
  obtain ⟨run, run', x, x', hrun, hrun', -, -, hstarts, hstarts', hsame, -⟩ :=
    start_inUniversalTime (husable _ _ hread.1) (husable _ _ hread.2) rfl rfl hread.1 hread.2
      (hcommon _ (by decide +kernel)) (hcommon _ (by decide +kernel)) "dep" "dep"
  have hstart := (toRun_eq_ok_iff.1 hrun).startTime_eq rfl hread.1
  have hstart' := (toRun_eq_ok_iff.1 hrun').startTime_eq rfl hread.2
  obtain rfl : 1709247600000000000 = x := by
    rw [← hstarts.moment, hstart]
    decide
  obtain rfl : 1709247600000000000 = x' := by
    rw [← hstarts'.moment, hstart']
    decide
  refine ⟨run, run', hrun, hrun', hstarts, hstarts', (hsame rfl).1, (hsame rfl).2, ?_⟩
  rw [Run.startDate, hstart]
  decide

/-! ## Starts that are lost -/

/-- A start that is kept: it is the one that the report tells, and the expected one only if the report tells
none. -/
inductive KeepsStart (report : ReportedRun) (t : Instant) : Prop where
  /-- the start that is told -/
  | told (h : Dated report.startTime t) : KeepsStart report t
  /-- the expected one, if nothing or a blank text is told -/
  | expected (hnone : ∀ s, report.startTime = some s → Text.isBlank s = true)
    (h : Dated report.expectedStartTime t) : KeepsStart report t

/-- A start is told in a text that is not blank and gives no instant. -/
def Garbled (report : ReportedRun) : Prop :=
  ∃ s, report.startTime = some s ∧ Text.isBlank s = false ∧ Instant.ofStrict? s = none

/-- A start that is garbled is none. -/
theorem Garbled.not_dated (h : report.Garbled) (t : Instant) : ¬ Dated report.startTime t := by
  obtain ⟨s, hs, -, hnone⟩ := h
  rintro ⟨s', hs', ht⟩
  obtain rfl := Option.some.inj (hs.symm.trans hs')
  rw [hnone] at ht
  cases ht

/-- **A run starts as its report says**, unless the start is garbled. -/
theorem keepsStart_iff (h : report.StandsFor id run) :
    report.KeepsStart run.startTime ↔ ¬ report.Garbled := by
  constructor
  · intro hkeeps hgarbled
    cases hkeeps with
    | told hdated => exact hgarbled.not_dated _ hdated
    | expected hblank _ =>
      obtain ⟨s, hs, hnamed, -⟩ := hgarbled
      rw [hblank s hs] at hnamed
      cases hnamed
  · intro hread
    obtain hdated | ⟨hundated, hexpected⟩ := h.startTime
    · exact .told hdated
    · refine .expected (fun s hs => ?_) hexpected
      -- a text that is not blank would give an instant
      by_contra hnamed
      refine hread ⟨s, hs, Bool.eq_false_iff.2 hnamed, ?_⟩
      cases hi : Instant.ofStrict? s with
      | none => rfl
      | some i => exact absurd ⟨s, hs, hi⟩ (hundated i)

/-- The run of a garbled report starts when it was expected to. -/
theorem Garbled.expected (hgarbled : report.Garbled) (h : report.StandsFor id run) :
    Dated report.expectedStartTime run.startTime :=
  h.startTime.elim (fun hdated => absurd hdated (hgarbled.not_dated _)) And.right

end ReportedRun

/-- The bytes of a JSON text denote its value. -/
theorem ProxyCall.denotes_bytes {s : List Char} {answer : Json} (h : Json.ofChars? s = some answer) :
    Denotes (Text.bytes s) answer := by
  refine .inr ⟨?_, ?_⟩
  · cases s with
    | nil =>
      have hnone : Json.ofChars? [] = none := by cbv
      rw [hnone] at h
      cases h
    | cons c s =>
      rw [Text.bytes_cons]
      exact List.append_ne_nil_of_left_ne_nil (Text.bytesOfChar_ne_nil c) _
  · rw [Json.ofBytes?, Text.charsOfBytes?_bytes]
    exact h

namespace ProxyClient

/-- Starts are kept: a call fails with an error about the response, or gives runs that start as their reports
say. -/
def KeepsStarts (reports : List ReportedRun) (result : Except FlowError (List Run)) : Prop :=
  (∃ fault, result = .error (.remote (.invalidResponse "flow_runs" fault))) ∨
    ∃ runs, result = .ok runs ∧ List.Forall₂ (fun report run => report.KeepsStart run.startTime) reports runs

theorem forall₂_keepsStart_iff {id : String} {reports : List ReportedRun} {runs : List Run}
    (h : List.Forall₂ (ReportedRun.StandsFor id) reports runs) :
    List.Forall₂ (fun report run => report.KeepsStart run.startTime) reports runs ↔
      ∀ report ∈ reports, ¬ report.Garbled := by
  induction h with
  | nil => simp
  | cons hrun _ ih => rw [List.forall₂_cons, List.forall_mem_cons, ReportedRun.keepsStart_iff hrun, ih]

section Value

variable {answer : Json} {reports : List ReportedRun}

/-- The runs that come of a value are those that its reports stand for. -/
theorem runsOfValue_eq_ok_iff_standsFor (h : answer.Ordered) (hreports : ListsReports answer reports)
    {id : String} {runs : List Run} : runsOfValue id (.ok answer) = .ok runs ↔
      List.Forall₂ (ReportedRun.StandsFor id) reports runs := by
  have hmade : reports.mapM (ReportedRun.toRun id) = .ok runs ↔
      List.Forall₂ (ReportedRun.StandsFor id) reports runs := by
    simp only [mapM_eq_ok_iff, ReportedRun.toRun_eq_ok_iff]
  rw [← hmade, runsOfValue, runsIn_of_listsReports h hreports]
  cases reports.mapM (ReportedRun.toRun id) <;> simp [Except.mapError]

/-- No runs come of a value only if there is an error about the response. -/
theorem runsOfValue_eq_error {id : String} {e : FlowError} (h : runsOfValue id (.ok answer) = .error e) :
    ∃ fault, e = .remote (.invalidResponse "flow_runs" fault) := by
  rw [runsOfValue] at h
  cases hruns : runsIn id answer with
  | ok runs =>
    rw [hruns] at h
    cases h
  | error fault =>
    rw [hruns] at h
    exact ⟨fault, (Except.error.inj h).symm⟩

/-- What comes of the reports in a value. -/
theorem keepsStarts_runsOfValue_iff (h : answer.Ordered) (hreports : ListsReports answer reports)
    (id : String) : KeepsStarts reports (runsOfValue id (.ok answer)) ↔
      ((∀ report ∈ reports, report.Usable) → ∀ report ∈ reports, ¬ report.Garbled) := by
  cases hruns : runsOfValue id (.ok answer) with
  | ok runs =>
    have hstand := (runsOfValue_eq_ok_iff_standsFor h hreports).1 hruns
    have hkeeps := forall₂_keepsStart_iff hstand
    constructor
    · rintro (⟨fault, hfault⟩ | ⟨runs', hruns', hkept⟩) -
      · cases hfault
      · obtain rfl := Except.ok.inj hruns'
        exact hkeeps.1 hkept
    · intro hread
      have hmade := usable_of_forall₂ (hstand.imp fun _ _ => ReportedRun.toRun_eq_ok_iff.2)
      refine .inr ⟨runs, rfl, hkeeps.2 (hread fun report hreport => ?_)⟩
      exact (ReportedRun.usable_iff id).2 (hmade report hreport)
  | error e =>
    obtain ⟨fault, rfl⟩ := runsOfValue_eq_error hruns
    refine ⟨fun _ husable => ?_, fun _ => .inl ⟨fault, rfl⟩⟩
    obtain ⟨runs, hmade⟩ := exists_forall₂_of_usable fun report hreport =>
      (ReportedRun.usable_iff id).1 (husable report hreport)
    have hok := (runsOfValue_eq_ok_iff_standsFor h hreports).2
      (hmade.imp fun _ _ => ReportedRun.toRun_eq_ok_iff.1)
    rw [hruns] at hok
    cases hok

end Value

/-- What a call comes to after a success with a value in its body. -/
theorem flowRunsOf_of_denotes {c : ProxyClient} {q : FlowRunsRequest}
    (hid : Text.isBlank q.deploymentId = false) {σ : Type}
    {serve : (r : httpPeer.Request) → σ → httpPeer.Answer r × σ} {s : σ} {r : Http.Request}
    (hr : c.flowRunsRequest q = .ok r) {status : Nat} (hstatus : 200 ≤ status ∧ status < 300)
    {bytes : List UInt8} (hreply : (serve r s).1 = .answer status (.complete bytes)) {answer : Json}
    (hbytes : ProxyCall.Denotes bytes answer) :
    ((c.flowRunsOf q).program.run serve s).result = runsOfValue q.deploymentId (.ok answer) := by
  have hserved : ((c.flowRunsOf q).program.run serve s).result =
      runsOfValue q.deploymentId (replyValue "flow_runs" (serve r s).1) :=
    congrArg Prod.fst (serveFlowRuns_of_made hid hr)
  rw [hserved, hreply, replyValue_of_denotes hstatus hbytes]

/-- **The calls that keep the starts of the runs they give.** Let a success of the proxy list reports. Then the
call fails with an error about the response, or each run starts as its report says, exactly if no report is
garbled or some report is not usable. Where there are runs, those of garbled reports start when they were
expected to. -/
theorem flowRunsOf_keepsStarts_iff (c : ProxyClient) (q : FlowRunsRequest)
    (hid : Text.isBlank q.deploymentId = false) {σ : Type}
    (serve : (r : httpPeer.Request) → σ → httpPeer.Answer r × σ) (s : σ) {r : Http.Request}
    (hr : c.flowRunsRequest q = .ok r) {status : Nat} (hstatus : 200 ≤ status ∧ status < 300)
    {bytes : List UInt8} (hreply : (serve r s).1 = .answer status (.complete bytes)) {answer : Json}
    (hbytes : ProxyCall.Denotes bytes answer) {reports : List ReportedRun}
    (hreports : ListsReports answer reports) :
    let result := ((c.flowRunsOf q).program.run serve s).result
    (KeepsStarts reports result ↔
      ((∀ report ∈ reports, report.Usable) → ∀ report ∈ reports, ¬ report.Garbled)) ∧
    ∀ runs, result = .ok runs → List.Forall₂ (fun report run =>
      (report.KeepsStart run.startTime ↔ ¬ report.Garbled) ∧
      (report.Garbled → ReportedRun.Dated report.expectedStartTime run.startTime)) reports runs := by
  intro result
  have hordered := ordered_of_denotes hbytes
  have hresult : result = runsOfValue q.deploymentId (.ok answer) :=
    flowRunsOf_of_denotes hid hr hstatus hreply hbytes
  rw [hresult]
  refine ⟨keepsStarts_runsOfValue_iff hordered hreports q.deploymentId, fun runs hruns => ?_⟩
  exact ((runsOfValue_eq_ok_iff_standsFor hordered hreports).1 hruns).imp fun report run hstands =>
    ⟨ReportedRun.keepsStart_iff hstands, fun hgarbled => hgarbled.expected hstands⟩

/-- A blank start gives way to the expected one. -/
theorem flowRunsOf_keepsStarts_iff_blank :
    let answer : Json := .object [("flow_runs", .array [.object
      [("expectedStartTime", .string "2024-01-15T04:00:00Z"), ("id", .string "a"), ("name", .string "n"),
        ("startTime", .string " "), ("status", .string "COMPLETED")]])]
    let report : ReportedRun := ⟨"a", "n", some " ", some "2024-01-15T04:00:00Z", .zero, "COMPLETED", none⟩
    let c : ProxyClient := ⟨⟨"http".toList, some ⟨[], [], .domain "proxy".toList, none⟩,
      .segments [[]], none, none⟩, none, 30, 60⟩
    let bytes := Text.bytes answer.text.toList
    let http (_ : httpPeer.Request) (_ : Unit) : Http.Reply × Unit := (.answer 200 (.complete bytes), ())
    Text.isBlank "dep" = false ∧ ListsReports answer [report] ∧
      KeepsStarts [report] ((c.flowRunsOf ⟨"dep", none⟩).program.run http ()).result := by
  intro answer report c bytes http
  have hid : Text.isBlank "dep" = false := by decide +kernel
  have hbase : Url.parse "http://proxy/".toList = .ok c.baseUrl := rfl
  have hweb : c.OnWeb := .of_ordinary hbase (by decide) rfl (by decide)
  obtain ⟨request, hrequest⟩ : ∃ request, c.flowRunsRequest ⟨"dep", none⟩ = .ok request :=
    (request_eq_ok_iff (by decide)).2 (hweb.takes "flow_runs")
  have hbytes : ProxyCall.Denotes bytes answer := ProxyCall.denotes_bytes (by cbv)
  have hreports : ListsReports answer [report] := ⟨_, rfl, .cons
    ⟨trivial, rfl, rfl, .text " ", .text "2024-01-15T04:00:00Z", .missing, rfl, .missing⟩ .nil⟩
  refine ⟨hid, hreports, (flowRunsOf_keepsStarts_iff c ⟨"dep", none⟩ hid http () hrequest (by decide) rfl
    hbytes hreports).1.2 fun _ report' hreport => ?_⟩
  obtain rfl := List.mem_singleton.1 hreport
  rintro ⟨s, hs, hnamed, -⟩
  obtain rfl := Option.some.inj hs
  revert hnamed
  decide +kernel

/-- A date without a time of day is no start, and the expected start stands in for it. -/
theorem not_keepsStarts_dateAlone :
    let answer : Json := .object [("flow_runs", .array [.object
      [("expectedStartTime", .string "2024-01-15T04:00:00Z"), ("id", .string "a"), ("name", .string "n"),
        ("startTime", .string "2024-01-15"), ("status", .string "COMPLETED")]])]
    let report : ReportedRun :=
      ⟨"a", "n", some "2024-01-15", some "2024-01-15T04:00:00Z", .zero, "COMPLETED", none⟩
    let start : Instant := ⟨1705291200, 0⟩
    let c : ProxyClient := ⟨⟨"http".toList, some ⟨[], [], .domain "proxy".toList, none⟩,
      .segments [[]], none, none⟩, none, 30, 60⟩
    let bytes := Text.bytes answer.text.toList
    let http (_ : httpPeer.Request) (_ : Unit) : Http.Reply × Unit := (.answer 200 (.complete bytes), ())
    let result := ((c.flowRunsOf ⟨"dep", none⟩).program.run http ()).result
    ListsReports answer [report] ∧
      result = .ok [⟨"dep", "a", "n", start, start, .zero, .completed, "COMPLETED"⟩] ∧
      ¬ KeepsStarts [report] result := by
  intro answer report start c bytes http result
  have hbase : Url.parse "http://proxy/".toList = .ok c.baseUrl := rfl
  have hweb : c.OnWeb := .of_ordinary hbase (by decide) rfl (by decide)
  obtain ⟨request, hrequest⟩ : ∃ request, c.flowRunsRequest ⟨"dep", none⟩ = .ok request :=
    (request_eq_ok_iff (by decide)).2 (hweb.takes "flow_runs")
  have hbytes : ProxyCall.Denotes bytes answer := ProxyCall.denotes_bytes (by cbv)
  have hreports : ListsReports answer [report] := ⟨_, rfl, .cons
    ⟨trivial, rfl, rfl, .text "2024-01-15", .text "2024-01-15T04:00:00Z", .missing, rfl, .missing⟩ .nil⟩
  have hresult : result = runsOfValue "dep" (.ok answer) :=
    flowRunsOf_of_denotes (by decide +kernel) hrequest (by decide) rfl hbytes
  have hgarbled : report.Garbled := ⟨_, rfl, by decide +kernel, by decide +kernel⟩
  have hstart : ReportedRun.Dated report.expectedStartTime start := ⟨_, rfl, by decide +kernel⟩
  have hstands : report.StandsFor "dep" ⟨"dep", "a", "n", start, start, .zero, .completed, "COMPLETED"⟩ :=
    ⟨rfl, rfl, rfl, .inr ⟨hgarbled.not_dated, hstart⟩, .inl hstart, rfl, by decide +kernel, rfl⟩
  have hordered := ordered_of_denotes hbytes
  refine ⟨hreports, ?_, fun hkeeps => ?_⟩
  · rw [hresult, runsOfValue_eq_ok_iff_standsFor hordered hreports]
    exact .cons hstands .nil
  · rw [hresult, keepsStarts_runsOfValue_iff hordered hreports] at hkeeps
    exact hkeeps (List.forall_mem_singleton.2 hstands.usable) report List.mem_cons_self hgarbled

end ProxyClient

end FlowRuns
