import FlowRuns.Proofs.Json.Records
import FlowRuns.Proxy.FlowRun

/-!
# One report

The proxy reports a flow run as a JSON value. What such a value has to be like to be read as a report, which
run a report stands for, and what is wrong with a report that stands for none.

* `ReportedRun.ReadFrom`, `ReportedRun.decoder_eq_ok_iff` — **the values that are read**, field by field.
* `ReportedRun.Dated`, `ReportedRun.usableTime?_eq_some_iff` — the texts that give a time.
* `ReportedRun.StandsFor`, `ReportedRun.toRun_eq_ok_iff` — **the run** that a report stands for.
* `ReportedRun.Offends`, `ReportedRun.toRun_eq_error_iff` — **what is wrong** with a report, the times before
  the state.
* `ReportedRun.Usable`, `ReportedRun.usable_iff` — the reports that stand for a run.
-/

namespace FlowRuns

/-! ## Fields of a report -/

/-- A text that may be missing or `null`, and is none then. -/
inductive Json.OptionalText : Option Json → Option String → Prop where
  /-- it is missing -/
  | missing : OptionalText none none
  /-- it is `null` -/
  | null : OptionalText (some .null) none
  /-- it is there -/
  | text (s : String) : OptionalText (some (.string s)) (some s)

/-- A number that may be missing, and is zero then; an integer is rounded. -/
inductive Json.OptionalNumber : Option Json → Binary64 → Prop where
  /-- it is missing -/
  | missing : OptionalNumber none .zero
  /-- it is an integer -/
  | int (i : Int) : OptionalNumber (some (.int i)) (.ofInt i)
  /-- it is another number -/
  | float (x : Binary64) : OptionalNumber (some (.float x)) x

namespace Decoder

theorem string_eq_ok_iff {j : Json} {s : String} : string j = .ok s ↔ j = .string s := by
  cases j <;> simp [string]

/-- What is read of a text that may be missing or `null`. -/
theorem yields_optional_string_iff {given? : Option Json} {text : Option String} :
    (Decoder.optional string).Yields none given? text ↔ Json.OptionalText given? text := by
  constructor
  · intro h
    unfold Yields at h
    match given? with
    | none =>
      obtain rfl : text = none := h
      exact .missing
    | some .null =>
      obtain rfl := Except.ok.inj h
      exact .null
    | some (.string s) =>
      obtain rfl := Except.ok.inj h
      exact .text s
    | some (.bool _) | some (.int _) | some (.float _) | some (.array _) | some (.object _) => cases h
  · intro h
    cases h <;> rfl

/-- What is read of a number that may be missing. -/
theorem yields_binary64_iff {given? : Option Json} {x : Binary64} :
    binary64.Yields .zero given? x ↔ Json.OptionalNumber given? x := by
  constructor
  · intro h
    unfold Yields at h
    match given? with
    | none =>
      obtain rfl : x = .zero := h
      exact .missing
    | some (.int i) =>
      obtain rfl := Except.ok.inj h
      exact .int i
    | some (.float y) =>
      obtain rfl := Except.ok.inj h
      exact .float y
    | some .null | some (.bool _) | some (.string _) | some (.array _) | some (.object _) => cases h
  · intro h
    cases h <;> rfl

end Decoder

namespace ReportedRun

/-- Fields that stand for a report: three texts have to be there, three may be missing or `null`, and the
seconds may be missing. -/
structure Given (get : Record.Fields) (report : ReportedRun) : Prop where
  /-- the identity -/
  id : get "id" 0 = some (.string report.id)
  /-- the name -/
  name : get "name" 1 = some (.string report.name)
  /-- when it started -/
  startTime : Json.OptionalText (get "startTime" 2) report.startTime
  /-- when it should have started -/
  expectedStartTime : Json.OptionalText (get "expectedStartTime" 3) report.expectedStartTime
  /-- how many seconds it took -/
  totalRunTime : Json.OptionalNumber (get "totalRunTime" 4) report.totalRunTime
  /-- the state -/
  status : get "status" 5 = some (.string report.status)
  /-- the orchestrator's own name of the state -/
  stateName : Json.OptionalText (get "state_name" 6) report.stateName

/-- **The seven fields of a report.** -/
theorem means_record : record.Means 7 Given := by
  have hfields := (((((((Record.means_required "id" Decoder.string).map (f := ReportedRun.mk)).seq
    (Record.means_required "name" Decoder.string)).seq
    (Record.means_withDefault "startTime" (.optional .string) none)).seq
    (Record.means_withDefault "expectedStartTime" (.optional .string) none)).seq
    (Record.means_withDefault "totalRunTime" .binary64 .zero)).seq
    (Record.means_required "status" Decoder.string)).seq
    (Record.means_withDefault "state_name" (.optional .string) none)
  refine hfields.congr fun get report => ?_
  simp only [Decoder.string_eq_ok_iff, Decoder.yields_optional_string_iff, Decoder.yields_binary64_iff]
  constructor
  · rintro ⟨_, stateName, ⟨_, status, ⟨_, totalRunTime, ⟨_, expected, ⟨_, start, ⟨_, name,
      ⟨id, ⟨_, hid, rfl⟩, rfl⟩, ⟨_, hname, rfl⟩, rfl⟩, hstart, rfl⟩, hexpected, rfl⟩, htotal, rfl⟩,
      ⟨_, hstatus, rfl⟩, rfl⟩, hstate, rfl⟩
    exact ⟨hid, hname, hstart, hexpected, htotal, hstatus, hstate⟩
  · intro h
    exact ⟨_, _, ⟨_, _, ⟨_, _, ⟨_, _, ⟨_, _, ⟨_, _, ⟨_, ⟨_, h.id, rfl⟩, rfl⟩, ⟨_, h.name, rfl⟩, rfl⟩,
      h.startTime, rfl⟩, h.expectedStartTime, rfl⟩, h.totalRunTime, rfl⟩, ⟨_, h.status, rfl⟩, rfl⟩,
      h.stateName, rfl⟩

/-- A value is read as a report: it is an object, or a sequence of at most seven elements, with fields that
stand for the report. -/
def ReadFrom (j : Json) (report : ReportedRun) : Prop := j.HasShape 7 ∧ Given j.field? report

/-- **The values that are read.** -/
theorem decoder_eq_ok_iff {j : Json} (hj : j.Ordered) {report : ReportedRun} :
    decoder j = .ok report ↔ ReadFrom j report :=
  means_record.decoder_eq_ok_iff hj

/-! ## Times -/

/-- A text is there and gives an instant. -/
def Dated (text : Option String) (t : Instant) : Prop := ∃ s, text = some s ∧ Instant.ofStrict? s = some t

end ReportedRun

/-- A blank character is no digit. -/
theorem Text.not_isDigit_of_isBlankChar {c : Char} (h : isBlankChar c = true) : c.isDigit = false := by
  simp only [isBlankChar, blankRanges, Ranges.contains_iff, List.mem_cons, List.not_mem_nil, or_false,
    exists_eq_or_imp, exists_eq_left] at h
  rw [Bool.eq_false_iff]
  intro hdigit
  obtain ⟨hlow, hhigh⟩ : 48 ≤ c.toNat ∧ c.toNat ≤ 57 := by
    simpa [Char.isDigit, UInt32.le_iff_toNat_le] using hdigit
  omega

/-- A blank text is no time stamp: that begins with a digit. -/
theorem Instant.ofStrict?_of_isBlank {s : String} (h : Text.isBlank s = true) : ofStrict? s = none := by
  have hyear : Timestamp.number? 4 4 s.toList = none := by
    cases hs : s.toList with
    | nil => rfl
    | cons c rest =>
      have hc : c.isDigit = false :=
        Text.not_isDigit_of_isBlankChar (List.all_eq_true.1 h c (hs ▸ List.mem_cons_self))
      simp [Timestamp.number?, hc]
  rw [ofStrict?, Timestamp.ofStrict?, hyear]
  rfl

namespace ReportedRun

/-- **A usable time** is one that a text gives; a blank text gives none anyway. -/
theorem usableTime?_eq_some_iff {text : Option String} {t : Instant} :
    usableTime? text = some t ↔ Dated text t := by
  unfold usableTime? Dated
  cases text with
  | none => simp
  | some s =>
    cases hblank : Text.isBlank s with
    | true => simp [Option.filter_some, hblank, Instant.ofStrict?_of_isBlank hblank]
    | false => simp [Option.filter_some, hblank]

theorem usableTime?_eq_none_iff {text : Option String} : usableTime? text = none ↔ ∀ t, ¬ Dated text t := by
  simp only [← usableTime?_eq_some_iff]
  cases usableTime? text <;> simp

/-! ## The run of a report -/

variable {id : String} {report : ReportedRun} {run : Run}

/-- Reports that stand for a run: at least one of their times is one, and their state, without blanks around
it and in upper case, is one of the nine. -/
structure Usable (report : ReportedRun) : Prop where
  /-- there is a time -/
  dated : ∃ t, Dated report.startTime t ∨ Dated report.expectedStartTime t
  /-- the state is known -/
  known : ∃ status : Status, status.name = Text.upperAscii (Text.trim report.status)

/-- **The run** of a deployment that a report stands for. -/
structure StandsFor (id : String) (report : ReportedRun) (run : Run) : Prop where
  /-- it is one of the deployment -/
  deploymentId : run.deploymentId = id
  /-- its identity is the report's -/
  flowRunId : run.flowRunId = report.id
  /-- its name is the report's -/
  name : run.name = report.name
  /-- it started when the report says, or else when it should have -/
  startTime : Dated report.startTime run.startTime ∨
    (∀ t, ¬ Dated report.startTime t) ∧ Dated report.expectedStartTime run.startTime
  /-- it should have started when the report says, or else when it did -/
  expectedStartTime : Dated report.expectedStartTime run.expectedStartTime ∨
    (∀ t, ¬ Dated report.expectedStartTime t) ∧ run.expectedStartTime = run.startTime
  /-- it took as long as the report says -/
  totalRunTime : run.totalRunTime = report.totalRunTime
  /-- its state has the name in the report -/
  status : run.status.name = Text.upperAscii (Text.trim report.status)
  /-- the orchestrator's name of its state is the report's, or else the name of the state -/
  stateName : run.stateName = report.stateName.getD run.status.name

/-- **What is wrong** with a report: it has no time, or it has one and its state is not known. -/
inductive Offends (report : ReportedRun) : ResponseFault → Prop where
  /-- neither of its times is one -/
  | noStartTime (hstart : ∀ t, ¬ Dated report.startTime t)
    (hexpected : ∀ t, ¬ Dated report.expectedStartTime t) : Offends report (.noStartTime report.id)
  /-- its state is none of the nine -/
  | unknownStatus (hdated : ∃ t, Dated report.startTime t ∨ Dated report.expectedStartTime t)
    (hunknown : ∀ status : Status, status.name ≠ Text.upperAscii (Text.trim report.status)) :
    Offends report (.unknownStatus (Text.upperAscii (Text.trim report.status)))

end ReportedRun

theorem Status.ofName?_eq_some_iff {s : String} {status : Status} :
    ofName? s = some status ↔ status.name = s := by
  constructor
  · intro h
    have hname := List.find?_some (p := fun st : Status => decide (st.name = s)) h
    exact of_decide_eq_true hname
  · rintro rfl
    exact ofName?_name status

theorem Status.parse_eq_ok_iff {s : String} {status : Status} :
    parse s = .ok status ↔ status.name = Text.upperAscii (Text.trim s) := by
  rw [← ofName?_eq_some_iff, parse, normalize]
  cases ofName? (Text.upperAscii (Text.trim s)) <;> simp

theorem Status.parse_eq_error_iff {s text : String} : parse s = .error text ↔
    (∀ status : Status, status.name ≠ Text.upperAscii (Text.trim s)) ∧
      text = Text.upperAscii (Text.trim s) := by
  simp only [ne_eq, ← ofName?_eq_some_iff, parse, normalize]
  cases ofName? (Text.upperAscii (Text.trim s)) <;> simp [eq_comm]

namespace ReportedRun

variable {id : String} {report : ReportedRun} {run : Run}

/-- The time at which a run starts is that of its start, or else the expected one. -/
theorem start?_eq_some_iff {t : Instant} : report.start? = some t ↔ Dated report.startTime t ∨
    (∀ t, ¬ Dated report.startTime t) ∧ Dated report.expectedStartTime t := by
  rw [start?, Option.or_eq_some_iff, usableTime?_eq_some_iff, usableTime?_eq_none_iff,
    usableTime?_eq_some_iff]

theorem start?_eq_none_iff : report.start? = none ↔
    (∀ t, ¬ Dated report.startTime t) ∧ ∀ t, ¬ Dated report.expectedStartTime t := by
  rw [start?, Option.or_eq_none_iff, usableTime?_eq_none_iff, usableTime?_eq_none_iff]

/-- **The run that is made of a report** is the one that it stands for. -/
theorem toRun_eq_ok_iff : report.toRun id = .ok run ↔ StandsFor id report run := by
  unfold toRun
  constructor
  · intro h
    split at h
    · cases h
    next start hstart =>
      split at h
      · cases h
      next status hstatus =>
        obtain rfl := Except.ok.inj h
        refine ⟨rfl, rfl, rfl, start?_eq_some_iff.1 hstart, ?_, rfl, Status.parse_eq_ok_iff.1 hstatus, rfl⟩
        dsimp only
        cases hexpected : usableTime? report.expectedStartTime with
        | some t => exact .inl (usableTime?_eq_some_iff.1 hexpected)
        | none => exact .inr ⟨usableTime?_eq_none_iff.1 hexpected, rfl⟩
  · intro h
    have hexpected : (usableTime? report.expectedStartTime).getD run.startTime = run.expectedStartTime := by
      obtain hdated | ⟨hnone, hsame⟩ := h.expectedStartTime
      · rw [usableTime?_eq_some_iff.2 hdated, Option.getD_some]
      · rw [usableTime?_eq_none_iff.2 hnone, Option.getD_none, hsame]
    rw [start?_eq_some_iff.2 h.startTime, Status.parse_eq_ok_iff.2 h.status]
    dsimp only
    rw [hexpected, ← h.deploymentId, ← h.flowRunId, ← h.name, ← h.totalRunTime, ← h.stateName]

/-- **The fault of a report** of which no run is made is what is wrong with it. -/
theorem toRun_eq_error_iff {fault : ResponseFault} :
    report.toRun id = .error fault ↔ Offends report fault := by
  unfold toRun
  constructor
  · intro h
    split at h
    next hstart =>
      obtain rfl := Except.error.inj h
      exact .noStartTime (start?_eq_none_iff.1 hstart).1 (start?_eq_none_iff.1 hstart).2
    next start hstart =>
      split at h
      next text hstatus =>
        obtain rfl := Except.error.inj h
        obtain ⟨hunknown, rfl⟩ := Status.parse_eq_error_iff.1 hstatus
        exact .unknownStatus ⟨start, (start?_eq_some_iff.1 hstart).imp_right And.right⟩ hunknown
      · cases h
  · intro h
    cases h with
    | noStartTime hstart hexpected => rw [start?_eq_none_iff.2 ⟨hstart, hexpected⟩]
    | unknownStatus hdated hunknown =>
      rw [Status.parse_eq_error_iff.2 ⟨hunknown, rfl⟩]
      cases hstart : report.start? with
      | some start => rfl
      | none =>
        obtain ⟨t, ht⟩ := hdated
        obtain ⟨hnone, hnone'⟩ := start?_eq_none_iff.1 hstart
        exact (ht.elim (hnone t) (hnone' t)).elim

/-- A usable report has nothing wrong with it. -/
theorem Usable.not_offends (h : report.Usable) (fault : ResponseFault) : ¬ Offends report fault := by
  intro hoffends
  cases hoffends with
  | noStartTime hstart hexpected =>
    obtain ⟨t, ht⟩ := h.dated
    exact ht.elim (hstart t) (hexpected t)
  | unknownStatus _ hunknown =>
    obtain ⟨status, hstatus⟩ := h.known
    exact hunknown status hstatus

theorem StandsFor.usable (h : StandsFor id report run) : report.Usable where
  dated := ⟨run.startTime, h.startTime.imp_right And.right⟩
  known := ⟨run.status, h.status⟩

/-- **A report stands for a run** exactly if it is usable. -/
theorem usable_iff (id : String) : report.Usable ↔ ∃ run, report.toRun id = .ok run := by
  constructor
  · intro h
    cases hrun : report.toRun id with
    | ok run => exact ⟨run, rfl⟩
    | error fault => exact absurd (toRun_eq_error_iff.1 hrun) (h.not_offends fault)
  · rintro ⟨run, hrun⟩
    exact (toRun_eq_ok_iff.1 hrun).usable

end ReportedRun

end FlowRuns
