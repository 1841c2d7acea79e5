import FlowRuns.Stats.Service
import FlowRuns.Proofs.Program
import FlowRuns.Proofs.Stats.Bounds

/-!
# The statistics of a dataflow change all at once

Computing statistics for a dataflow in its owner's place either ends with the new snapshot both in the
store and in the place, or leaves the place as it was: whatever is wrong with the arguments, and
whatever the history and the store answer.

* `Acceptable` — the arguments that the service goes on with.
* `program_computeInPlace` — the computation as a tree: at most one query, and after it at most one
  save.
* `computeInPlace_atomic` — what a run leaves behind, way by way.
-/

namespace FlowRuns

namespace StatsService

/-! ## The arguments -/

/-- The arguments that the service goes on with. -/
structure Acceptable (d : Dataflow) (o : StatsOptions) : Prop where
  /-- the deployment is named -/
  named : Text.isBlank d.deploymentId = false
  /-- there is room for a run -/
  roomy : o.limit ≠ 0
  /-- a run may be in some state -/
  admitting : o.statuses ≠ []

/-- What is asked of the history. -/
abbrev queryOf (d : Dataflow) (o : StatsOptions) : HistoryQuery := ⟨d.deploymentId, o.statuses, o.limit⟩

/-- What the service does once it has some runs: it asks for one save, and puts the snapshot into the
place when that went well. -/
def storing (d : Dataflow) (runs : List Run) :
    Program storesPeer (Except Failure RunTimeStats × Dataflow) :=
  match computeRunTimeStats? runs with
  | none => .done (.error .panic, d)
  | some stats => .ask (.inr (.save (d.withRunTimeStats stats))) fun (saved : Except FlowError Unit) =>
    match saved with
    | .error e => .done (.error (.error e), d)
    | .ok () => .report (.statsComputed d.deploymentId runs.length stats true)
        (.done (.ok stats, d.withRunTimeStats stats))

/-- What the service does with the answer of the history. -/
def answered (d : Dataflow) (o : StatsOptions) (answer : Except FlowError (List Run)) :
    Program storesPeer (Except Failure RunTimeStats × Dataflow) :=
  match answer with
  | .error e => .done (.error (.error e), d)
  | .ok runs => .report (.historyFetched d.deploymentId runs.length o)
      (if runs = [] then .report (.statsComputed d.deploymentId 0 .noRuns false) (.done (.ok .noRuns, d))
      else storing d runs)

theorem run_latestRuns (q : HistoryQuery) :
    (latestRuns q).run = .ask (.inl (.latest q)) fun (answer : Except FlowError (List Run)) =>
      .done (answer.mapError .error) :=
  Fallible.run_ask_bind (P := storesPeer) (.inl (.latest q)) fun (a : Except FlowError (List Run)) => a

theorem run_saveDataflow (d : Dataflow) :
    (saveDataflow d).run = .ask (.inr (.save d)) fun (answer : Except FlowError Unit) =>
      .done (answer.mapError .error) :=
  Fallible.run_ask_bind (P := storesPeer) (.inr (.save d)) fun (a : Except FlowError Unit) => a

theorem program_of_blank {d : Dataflow} (o : StatsOptions)
    (hid : Text.isBlank d.deploymentId = true) :
    (computeInPlace o).program d = .done (.error (.error (.validation (.blank "deployment_id"))), d) := by
  unfold computeInPlace
  simp [InPlace.program_bind, Validation.deploymentId, Validation.identifier, hid, Validation.refuse]

theorem program_of_zeroLimit {d : Dataflow} {o : StatsOptions}
    (hid : Text.isBlank d.deploymentId = false) (hlimit : o.limit = 0) :
    (computeInPlace o).program d = .done (.error (.error (.validation .zeroLimit)), d) := by
  unfold computeInPlace
  simp [InPlace.program_bind, Validation.deploymentId, Validation.identifier, hid, Validation.refuse,
    Validation.historyLimit, hlimit]

theorem program_of_noStatuses {d : Dataflow} {o : StatsOptions}
    (hid : Text.isBlank d.deploymentId = false) (hlimit : o.limit ≠ 0) (hss : o.statuses = []) :
    (computeInPlace o).program d = .done (.error (.error (.validation .noStatuses)), d) := by
  unfold computeInPlace
  simp [InPlace.program_bind, Validation.deploymentId, Validation.identifier, hid, Validation.refuse,
    Validation.historyLimit, hlimit, Validation.statuses, hss]

/-- Arguments that do not pass end the computation before it asks for anything. -/
theorem program_of_not_acceptable {d : Dataflow} {o : StatsOptions} (h : ¬ Acceptable d o) :
    ∃ v, (computeInPlace o).program d = .done (.error (.error (.validation v)), d) := by
  cases hid : Text.isBlank d.deploymentId with
  | true => exact ⟨_, program_of_blank o hid⟩
  | false =>
    by_cases hlimit : o.limit = 0
    · exact ⟨_, program_of_zeroLimit hid hlimit⟩
    · by_cases hss : o.statuses = []
      · exact ⟨_, program_of_noStatuses hid hlimit hss⟩
      · exact absurd ⟨hid, hlimit, hss⟩ h

/-- Once the history has answered with some runs, the rest of the computation is `storing`. -/
theorem program_storing (d : Dataflow) (runs : List Run) :
    InPlace.program (do
      let stats ← InPlace.orPanic (computeRunTimeStats? runs)
      liftM (saveDataflow (d.withRunTimeStats stats))
      set (d.withRunTimeStats stats)
      InPlace.note (.statsComputed (d.withRunTimeStats stats).deploymentId runs.length stats true)
      pure stats) d = storing d runs := by
  unfold storing
  cases computeRunTimeStats? runs with
  | none => rfl
  | some stats =>
    simp only [InPlace.program_bind, InPlace.program_orPanic_some, Program.done_bind,
      InPlace.program_lift, run_saveDataflow]
    refine congrArg (Program.ask _) (funext fun (saved : Except FlowError Unit) => ?_)
    cases saved with
    | error e => rfl
    | ok u => rfl

/-- **The computation as a tree**, once the arguments pass: one query, and what its answer leads to. -/
theorem program_of_acceptable {d : Dataflow} {o : StatsOptions} (h : Acceptable d o) :
    (computeInPlace o).program d = .ask (.inl (.latest (queryOf d o))) (answered d o) := by
  unfold computeInPlace
  simp only [InPlace.program_bind, InPlace.program_get, Program.done_bind, Validation.deploymentId,
    Validation.identifier, h.named, Bool.false_eq_true, if_false, InPlace.program_ofExcept_ok,
    Validation.historyLimit, if_neg h.roomy, Validation.statuses, List.isEmpty_iff, h.admitting,
    InPlace.program_lift, run_latestRuns]
  refine congrArg (Program.ask _) (funext fun (answer : Except FlowError (List Run)) => ?_)
  cases answer with
  | error e => rfl
  | ok runs =>
    refine congrArg (Program.report _) ?_
    by_cases hruns : runs = []
    · simp [hruns, InPlace.program_bind]
    · simp only [hruns, if_false]
      exact program_storing d runs

/-! ## What a run leaves behind -/

section Run

variable {σ : Type} (serve : (r : storesPeer.Request) → σ → storesPeer.Answer r × σ) (s : σ)
  (d : Dataflow) (o : StatsOptions)

/-- A run of the computation in the place of a dataflow, against a history and a store that keep what
they are asked. -/
abbrev leaves : Program.Outcome (σ × List storesPeer.Request) (Except Failure RunTimeStats × Dataflow) :=
  Program.run (Program.recording serve) ((computeInPlace o).program d) (s, [])

variable {serve s d o} {s₁ s₂ : σ}

/-- The history answers with an error. -/
theorem leaves_of_failed_query (h : Acceptable d o) {e : FlowError}
    (hq : serve (.inl (.latest (queryOf d o))) s = (Except.error e, s₁)) :
    leaves serve s d o =
      ⟨(.error (.error e), d), [], (s₁, [.inl (.latest (queryOf d o))])⟩ := by
  rw [leaves, program_of_acceptable h]
  exact (Program.run_recording_ask hq).trans rfl

/-- The history answers with no runs. -/
theorem leaves_of_no_runs (h : Acceptable d o)
    (hq : serve (.inl (.latest (queryOf d o))) s = (Except.ok [], s₁)) :
    leaves serve s d o =
      ⟨(.ok .noRuns, d), [.historyFetched d.deploymentId 0 o,
        .statsComputed d.deploymentId 0 .noRuns false], (s₁, [.inl (.latest (queryOf d o))])⟩ := by
  rw [leaves, program_of_acceptable h]
  exact (Program.run_recording_ask hq).trans rfl

/-- The history answers with some runs: the rest of the run is one of `storing`. -/
theorem leaves_of_runs (h : Acceptable d o) {runs : List Run} (hruns : runs ≠ [])
    (hq : serve (.inl (.latest (queryOf d o))) s = (Except.ok runs, s₁)) :
    leaves serve s d o =
      let rest := Program.run (Program.recording serve) (storing d runs)
        (s₁, [.inl (.latest (queryOf d o))])
      ⟨rest.result, .historyFetched d.deploymentId runs.length o :: rest.events, rest.state⟩ := by
  rw [leaves, program_of_acceptable h]
  refine (Program.run_recording_ask hq).trans ?_
  simp only [answered, if_neg hruns]
  rfl

/-- No duration is a number. -/
theorem leaves_of_no_numbers (h : Acceptable d o) {runs : List Run} (hruns : runs ≠ [])
    (hq : serve (.inl (.latest (queryOf d o))) s = (Except.ok runs, s₁))
    (hnan : ∀ r ∈ runs, r.totalRunTime.isNaN = true) :
    leaves serve s d o = ⟨(.error .panic, d), [.historyFetched d.deploymentId runs.length o],
      (s₁, [.inl (.latest (queryOf d o))])⟩ := by
  rw [leaves_of_runs h hruns hq, storing, (computeRunTimeStats_eq_none_iff hruns).2 hnan]
  rfl

variable {runs : List Run} {stats : RunTimeStats}

/-- The store refuses the snapshot. -/
theorem leaves_of_failed_save (h : Acceptable d o) (hruns : runs ≠ [])
    (hq : serve (.inl (.latest (queryOf d o))) s = (Except.ok runs, s₁))
    (hstats : computeRunTimeStats? runs = some stats) {e : FlowError}
    (hsave : serve (.inr (.save (d.withRunTimeStats stats))) s₁ = (Except.error e, s₂)) :
    leaves serve s d o = ⟨(.error (.error e), d), [.historyFetched d.deploymentId runs.length o],
      (s₂, [.inl (.latest (queryOf d o)), .inr (.save (d.withRunTimeStats stats))])⟩ := by
  have hrest : Program.run (Program.recording serve) (storing d runs)
      (s₁, [.inl (.latest (queryOf d o))]) = ⟨(.error (.error e), d), [],
        (s₂, [.inl (.latest (queryOf d o)), .inr (.save (d.withRunTimeStats stats))])⟩ := by
    rw [storing, hstats]
    exact (Program.run_recording_ask hsave).trans rfl
  rw [leaves_of_runs h hruns hq, hrest]

/-- The store keeps the snapshot. -/
theorem leaves_of_save (h : Acceptable d o) (hruns : runs ≠ [])
    (hq : serve (.inl (.latest (queryOf d o))) s = (Except.ok runs, s₁))
    (hstats : computeRunTimeStats? runs = some stats)
    (hsave : serve (.inr (.save (d.withRunTimeStats stats))) s₁ = (Except.ok (), s₂)) :
    leaves serve s d o = ⟨(.ok stats, d.withRunTimeStats stats),
      [.historyFetched d.deploymentId runs.length o,
        .statsComputed d.deploymentId runs.length stats true],
      (s₂, [.inl (.latest (queryOf d o)), .inr (.save (d.withRunTimeStats stats))])⟩ := by
  have hrest : Program.run (Program.recording serve) (storing d runs)
      (s₁, [.inl (.latest (queryOf d o))]) = ⟨(.ok stats, d.withRunTimeStats stats),
        [.statsComputed d.deploymentId runs.length stats true],
        (s₂, [.inl (.latest (queryOf d o)), .inr (.save (d.withRunTimeStats stats))])⟩ := by
    rw [storing, hstats]
    exact (Program.run_recording_ask hsave).trans rfl
  rw [leaves_of_runs h hruns hq, hrest]

/-- **Nothing by halves.** A run that changes the place has been answered by the history with some runs,
and by the store that it keeps their snapshot. -/
theorem leaves_unchanged_or_saved (serve : (r : storesPeer.Request) → σ → storesPeer.Answer r × σ)
    (s : σ) (d : Dataflow) (o : StatsOptions) :
    (leaves serve s d o).result.2 = d ∨
      ∃ stats, (leaves serve s d o).result = (.ok stats, d.withRunTimeStats stats) ∧
        (leaves serve s d o).state.2 =
          [.inl (.latest (queryOf d o)), .inr (.save (d.withRunTimeStats stats))] := by
  by_cases h : Acceptable d o
  · rcases hq : serve (.inl (.latest (queryOf d o))) s with ⟨answer, s₁⟩
    cases (answer : Except FlowError (List Run)) with
    | error e => exact .inl (by rw [leaves_of_failed_query h hq])
    | ok runs =>
      by_cases hruns : runs = []
      · subst hruns
        exact .inl (by rw [leaves_of_no_runs h hq])
      · cases hstats : computeRunTimeStats? runs with
        | none =>
          have hnan := (computeRunTimeStats_eq_none_iff hruns).1 hstats
          exact .inl (by rw [leaves_of_no_numbers h hruns hq hnan])
        | some stats =>
          rcases hsave : serve (.inr (.save (d.withRunTimeStats stats))) s₁ with ⟨saved, s₂⟩
          cases (saved : Except FlowError Unit) with
          | error e => exact .inl (by rw [leaves_of_failed_save h hruns hq hstats hsave])
          | ok u => exact .inr ⟨stats, by rw [leaves_of_save h hruns hq hstats hsave]; exact ⟨rfl, rfl⟩⟩
  · obtain ⟨v, hv⟩ := program_of_not_acceptable h
    exact .inl (by rw [leaves, hv]; rfl)

end Run

/-- **An update all at once.** For every dataflow, all options, and whatever the two collaborators
answer:

* arguments that do not pass are refused in order, and nobody is asked;
* else the history is asked once, and its error is handed on;
* no runs give the snapshot over no runs, and nothing is saved;
* of runs with a duration that is a number, the statistics are saved once: the dataflow with the four
  figures as its metadata and all its other fields. The place gets it when the store agrees; an error
  of the store is handed on;
* runs of which no duration is a number make the computation give up. Then, and in every other way to
  end but the successful save, the place holds the dataflow as it was. -/
theorem computeInPlace_atomic {σ : Type}
    (serve : (r : storesPeer.Request) → σ → storesPeer.Answer r × σ) (s : σ) (d : Dataflow)
    (o : StatsOptions) :
    let run := Program.run (Program.recording serve) ((computeInPlace o).program d) (s, [])
    let query : storesPeer.Request := .inl (.latest ⟨d.deploymentId, o.statuses, o.limit⟩)
    let fetched (n : Nat) : Event := .historyFetched d.deploymentId n o
    (Text.isBlank d.deploymentId = true →
      run = ⟨(.error (.error (.validation (.blank "deployment_id"))), d), [], (s, [])⟩) ∧
    (Text.isBlank d.deploymentId = false → o.limit = 0 →
      run = ⟨(.error (.error (.validation .zeroLimit)), d), [], (s, [])⟩) ∧
    (Text.isBlank d.deploymentId = false → o.limit ≠ 0 → o.statuses = [] →
      run = ⟨(.error (.error (.validation .noStatuses)), d), [], (s, [])⟩) ∧
    (Text.isBlank d.deploymentId = false → o.limit ≠ 0 → o.statuses ≠ [] →
      (∀ e s₁, serve query s = (Except.error e, s₁) →
        run = ⟨(.error (.error e), d), [], (s₁, [query])⟩) ∧
      (∀ s₁, serve query s = (Except.ok [], s₁) →
        run = ⟨(.ok .noRuns, d),
          [fetched 0, .statsComputed d.deploymentId 0 .noRuns false], (s₁, [query])⟩) ∧
      (∀ runs s₁, runs ≠ [] → serve query s = (Except.ok runs, s₁) →
        ((∀ r ∈ runs, r.totalRunTime.isNaN = true) →
          run = ⟨(.error .panic, d), [fetched runs.length], (s₁, [query])⟩) ∧
        ((∃ r ∈ runs, r.totalRunTime.isNaN = false) → ∃ stats,
          computeRunTimeStats? runs = some stats ∧
          let updated := { d with metadata := some (.object
            [("avg_run_time", .int stats.avg.toInt), ("max_run_time", .int stats.max.toInt),
              ("min_run_time", .int stats.min.toInt),
              ("wt_avg_run_time", .int stats.weightedAvg.toInt)]) }
          let save : storesPeer.Request := .inr (.save updated)
          (∀ e s₂, serve save s₁ = (Except.error e, s₂) →
            run = ⟨(.error (.error e), d), [fetched runs.length], (s₂, [query, save])⟩) ∧
          (∀ s₂, serve save s₁ = (Except.ok (), s₂) →
            run = ⟨(.ok stats, updated), [fetched runs.length,
              .statsComputed d.deploymentId runs.length stats true], (s₂, [query, save])⟩)))) ∧
    (run.result.2 = d ∨ ∃ stats, run.result = (.ok stats, d.withRunTimeStats stats) ∧
      run.state.2 = [query, .inr (.save (d.withRunTimeStats stats))]) := by
  intro run query fetched
  refine ⟨fun hid => ?_, fun hid hlimit => ?_, fun hid hlimit hss => ?_, fun hid hlimit hss => ?_,
    leaves_unchanged_or_saved serve s d o⟩
  · simp only [run, program_of_blank o hid, Program.run_done]
  · simp only [run, program_of_zeroLimit hid hlimit, Program.run_done]
  · simp only [run, program_of_noStatuses hid hlimit hss, Program.run_done]
  · have h : Acceptable d o := ⟨hid, hlimit, hss⟩
    refine ⟨fun e s₁ hq => leaves_of_failed_query h hq, fun s₁ hq => leaves_of_no_runs h hq,
      fun runs s₁ hruns hq => ⟨leaves_of_no_numbers h hruns hq, fun hnum => ?_⟩⟩
    -- one number among the durations is enough for the computation not to give up
    have hne : computeRunTimeStats? runs ≠ none := by
      rw [Ne, computeRunTimeStats_eq_none_iff hruns]
      obtain ⟨r, hr, hfalse⟩ := hnum
      exact fun hall => by rw [hall r hr] at hfalse; cases hfalse
    obtain ⟨stats, hstats⟩ := Option.ne_none_iff_exists'.1 hne
    exact ⟨stats, hstats, fun e s₂ hsave => leaves_of_failed_save h hruns hq hstats hsave,
      fun s₂ hsave => leaves_of_save h hruns hq hstats hsave⟩

/-- A history of one endless run beside a store that cannot be written to: the update is tried once and
the place holds what it held. -/
theorem computeInPlace_atomic_unavailable :
    let runs : List Run := [{ (default : Run) with totalRunTime := .infinite false }]
    let serve (r : storesPeer.Request) (s : Unit) : storesPeer.Answer r × Unit :=
      match r with
      | .inl (.latest _) => (.ok runs, s)
      | .inl (.record _) => (.ok 0, s)
      | .inr (.find _) => (.ok none, s)
      | .inr (.save _) => (.error (.remote (.status 503 "dataflow store unavailable")), s)
    let d : Dataflow := { (default : Dataflow) with deploymentId := "dep", metadata := some .null }
    let run := Program.run (Program.recording serve) ((computeInPlace default).program d) ((), [])
    ∃ stats, computeRunTimeStats? runs = some stats ∧
      run.result = (.error (.error (.remote (.status 503 "dataflow store unavailable"))), d) ∧
      run.state.2 = [.inl (.latest ⟨"dep", [.completed], 20⟩),
        .inr (.save (d.withRunTimeStats stats))] := by
  intro runs serve d run
  obtain ⟨_, _, _, hgo, _⟩ := computeInPlace_atomic serve () d default
  obtain ⟨_, _, hruns⟩ := hgo (by decide +kernel) (by decide) (by decide)
  obtain ⟨stats, hstats, hfail, _⟩ := (hruns runs () (by simp [runs]) rfl).2
    ⟨_, List.mem_singleton_self _, rfl⟩
  have hrun := hfail _ () rfl
  exact ⟨stats, hstats, congrArg (·.result) hrun, congrArg (·.state.2) hrun⟩

end StatsService

end FlowRuns
