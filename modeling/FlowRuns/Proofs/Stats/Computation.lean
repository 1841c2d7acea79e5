import FlowRuns.Proofs.Boundary
import FlowRuns.Proofs.Stores

/-!
# Computations against stores in memory

* `StatsService.Ends` — the three ways in which a computation on a dataflow ends.
* `StatsService.run_computeInPlace`, `StatsService.run_storing` — a computation, operation by operation.
* `StatsService.ends_computeInPlace` — **a computation** ends in one of the three ways.
* `StatsService.run_computeFor_of_missing`, `StatsService.run_computeFor_of_found` — one that looks up its
  dataflow first.
-/

namespace FlowRuns

namespace StatsService

/-- How a computation on a dataflow ends against stores in memory. -/
inductive Ends (s : Stores) (d : Dataflow) (o : StatsOptions) :
    Program.Outcome Stores (Except Failure RunTimeStats × Dataflow) → Prop where
  /-- early: stores and dataflow are as they were -/
  | early (f : Failure) (events : List Event) : Ends s d o ⟨(.error f, d), events, s⟩
  /-- without runs: stores and dataflow are as they were -/
  | noRuns (events : List Event) (hruns : s.history.latest (queryOf d o) = []) :
    Ends s d o ⟨(.ok .noRuns, d), events, s⟩
  /-- with a snapshot over some runs, which is saved -/
  | saved (stats : RunTimeStats) (events : List Event) (hruns : s.history.latest (queryOf d o) ≠ [])
    (hstats : computeRunTimeStats? (s.history.latest (queryOf d o)) = some stats) :
    Ends s d o ⟨(.ok stats, d.withRunTimeStats stats), events,
      { s with dataflows := s.dataflows.save (d.withRunTimeStats stats) }⟩

variable {s : Stores} {d : Dataflow} {o : StatsOptions}

/-! ## On a dataflow -/

/-- Statistics that the store keeps. -/
theorem run_storing {runs : List Run} {stats : RunTimeStats} (hfault : s.fault .saveDataflow = none)
    (hstats : computeRunTimeStats? runs = some stats) :
    Program.run Stores.serve (storing d runs) s = ⟨(.ok stats, d.withRunTimeStats stats),
      [.statsComputed d.deploymentId runs.length stats true],
      { s with dataflows := s.dataflows.save (d.withRunTimeStats stats) }⟩ := by
  rw [storing, hstats]
  exact Program.run_ask_of_answer (P := storesPeer) (Stores.serve_save hfault)

/-- Statistics that the store refuses. -/
theorem run_storing_of_fault {runs : List Run} {stats : RunTimeStats} {e : FlowError}
    (hfault : s.fault .saveDataflow = some e) (hstats : computeRunTimeStats? runs = some stats) :
    Program.run Stores.serve (storing d runs) s = ⟨(.error (.error e), d), [], s⟩ := by
  rw [storing, hstats]
  exact Program.run_ask_of_answer (P := storesPeer) (Stores.serve_save_of_fault hfault)

/-- With some runs, the store is asked for one save at most. -/
theorem ends_storing (e : Event) (hruns : s.history.latest (queryOf d o) ≠ []) :
    Ends s d o (Program.run Stores.serve
      (.report e (storing d (s.history.latest (queryOf d o)))) s) := by
  cases hstats : computeRunTimeStats? (s.history.latest (queryOf d o)) with
  | none =>
    rw [storing, hstats]
    exact .early .panic _
  | some stats =>
    cases hfault : s.fault .saveDataflow with
    | some fault =>
      rw [Program.run_report, run_storing_of_fault hfault hstats]
      exact .early (.error fault) _
    | none =>
      rw [Program.run_report, run_storing hfault hstats]
      exact .saved stats _ hruns hstats

/-- The history does not answer. -/
theorem run_computeInPlace_of_fault (h : Acceptable d o) {e : FlowError}
    (hfault : s.fault .queryRuns = some e) :
    ((computeInPlace o).program d).run Stores.serve s = ⟨(.error (.error e), d), [], s⟩ := by
  rw [program_of_acceptable h]
  exact Program.run_ask_of_answer (P := storesPeer) (Stores.serve_latest_of_fault hfault)

/-- The history answers. -/
theorem run_computeInPlace (h : Acceptable d o) (hfault : s.fault .queryRuns = none) :
    ((computeInPlace o).program d).run Stores.serve s =
      Program.run Stores.serve (answered d o (.ok (s.history.latest (queryOf d o)))) s := by
  rw [program_of_acceptable h]
  exact Program.run_ask_of_answer (P := storesPeer) (Stores.serve_latest hfault)

/-- **A computation in place** ends in one of the three ways. -/
theorem ends_computeInPlace (s : Stores) (d : Dataflow) (o : StatsOptions) :
    Ends s d o (((computeInPlace o).program d).run Stores.serve s) := by
  by_cases h : Acceptable d o
  · cases hfault : s.fault .queryRuns with
    | some e =>
      rw [run_computeInPlace_of_fault h hfault]
      exact .early (.error e) _
    | none =>
      rw [run_computeInPlace h hfault, answered]
      by_cases hruns : s.history.latest (queryOf d o) = []
      · rw [if_pos hruns]
        exact .noRuns _ hruns
      · rw [if_neg hruns]
        exact ends_storing _ hruns
  · obtain ⟨v, hv⟩ := program_of_not_acceptable h
    rw [hv]
    exact .early (.error (.validation v)) _

/-! ## On the dataflow of a deployment -/

/-- The store answers. -/
theorem run_computeFor_of_answered {id : String} (o : StatsOptions) (hid : Text.isBlank id = false)
    (hfault : s.fault .findDataflow = none) :
    (computeFor id o).run.run Stores.serve s =
      Program.run Stores.serve (EntryCall.lookedUp id o (.ok (s.dataflows.get? id))) s := by
  rw [EntryCall.run_computeFor_of_named hid]
  exact Program.run_ask_of_answer (P := storesPeer) (Stores.serve_find hfault)

/-- The store is not asked, or does not answer, or has no such dataflow. -/
theorem run_computeFor_of_missing {id : String} (o : StatsOptions)
    (h : Text.isBlank id = true ∨ s.fault .findDataflow ≠ none ∨ s.dataflows.get? id = none) :
    ∃ f, (computeFor id o).run.run Stores.serve s = ⟨.error f, [], s⟩ := by
  cases hid : Text.isBlank id with
  | true => exact ⟨_, congrArg (Program.run Stores.serve · s) (EntryCall.run_computeFor_of_blank o hid)⟩
  | false =>
    cases hfault : s.fault .findDataflow with
    | some e =>
      rw [EntryCall.run_computeFor_of_named hid]
      exact ⟨_, Program.run_ask_of_answer (P := storesPeer) (Stores.serve_find_of_fault hfault)⟩
    | none =>
      have hnone : s.dataflows.get? id = none := by
        obtain hblank | hfault' | hnone := h
        · cases hid.symm.trans hblank
        · exact absurd hfault hfault'
        · exact hnone
      rw [run_computeFor_of_answered o hid hfault, hnone]
      exact ⟨_, rfl⟩

/-- The store has the dataflow: the computation goes on in the place of that. -/
theorem run_computeFor_of_found {id : String} (o : StatsOptions) (hid : Text.isBlank id = false)
    (hfault : s.fault .findDataflow = none) (hfound : s.dataflows.get? id = some d) :
    let inPlace := ((computeInPlace o).program d).run Stores.serve s
    (computeFor id o).run.run Stores.serve s =
      ⟨inPlace.result.1.map fun stats => (inPlace.result.2, stats), inPlace.events, inPlace.state⟩ := by
  intro inPlace
  rw [run_computeFor_of_answered o hid hfault, hfound]
  exact InPlace.run_toFallible Stores.serve _ d s

/-- The dataflow of a deployment is looked up first: the computation ends there, or goes on in the place
of that dataflow. -/
theorem run_computeFor (s : Stores) (id : String) (o : StatsOptions) :
    let run := (computeFor id o).run.run Stores.serve s
    (∃ f, run = ⟨.error f, [], s⟩) ∨ ∃ d, s.dataflows.get? id = some d ∧
      let inPlace := ((computeInPlace o).program d).run Stores.serve s
      run = ⟨inPlace.result.1.map fun stats => (inPlace.result.2, stats), inPlace.events,
        inPlace.state⟩ := by
  intro run
  by_cases h : Text.isBlank id = true ∨ s.fault .findDataflow ≠ none ∨ s.dataflows.get? id = none
  · exact .inl (run_computeFor_of_missing o h)
  · rw [not_or, not_or, Bool.not_eq_true, Classical.not_not] at h
    obtain ⟨hid, hfault, hfound⟩ := h
    obtain ⟨d, hd⟩ := Option.ne_none_iff_exists'.1 hfound
    exact .inr ⟨d, hd, run_computeFor_of_found o hid hfault hd⟩

end StatsService

end FlowRuns
