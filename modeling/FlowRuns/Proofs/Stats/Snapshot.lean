import FlowRuns.Proofs.Dataflow.Saving
import FlowRuns.Proofs.Stats.Computation

/-!
# Snapshots that stay

A computation that succeeds gives a snapshot of the latest runs. The snapshot depends on these runs and on
nothing that an earlier computation has left beside the dataflow, so computing once more, of the same runs,
gives the same statistics and the same dataflow.

* `StatsService.snapshot?` — what a computation gives of some runs.
* `StatsService.snapshot?_snapshot?` — **a snapshot is final.**
* `StatsService.run_computeFor_of_snapshot`, `StatsService.of_run_computeFor_ok` — a computation that succeeds
  gives a snapshot, and whatever it needs was in order.
-/

namespace FlowRuns

namespace StatsService

variable {s : Stores} {d d' : Dataflow} {o : StatsOptions} {runs : List Run} {stats : RunTimeStats}
  {id : String}

/-- The dataflow and the statistics that a computation over some runs gives, if it gives any. -/
def snapshot? (d : Dataflow) (runs : List Run) : Option (Dataflow × RunTimeStats) :=
  if runs = [] then some (d, .noRuns)
  else (computeRunTimeStats? runs).map fun stats => (d.withRunTimeStats stats, stats)

theorem snapshot?_of_ne_nil (hruns : runs ≠ []) : snapshot? d runs =
    (computeRunTimeStats? runs).map fun stats => (d.withRunTimeStats stats, stats) :=
  if_neg hruns

theorem deploymentId_of_snapshot? (h : snapshot? d runs = some (d', stats)) :
    d'.deploymentId = d.deploymentId := by
  by_cases hruns : runs = []
  · rw [snapshot?, if_pos hruns] at h
    obtain ⟨rfl, rfl⟩ := h
    rfl
  · rw [snapshot?_of_ne_nil hruns, Option.map_eq_some_iff] at h
    obtain ⟨_, -, rfl, rfl⟩ := h
    rfl

/-- **A snapshot is final**: the dataflow that has it gets the same one of the same runs. -/
theorem snapshot?_snapshot? (h : snapshot? d runs = some (d', stats)) :
    snapshot? d' runs = some (d', stats) := by
  by_cases hruns : runs = []
  · rw [snapshot?, if_pos hruns] at h ⊢
    obtain ⟨rfl, rfl⟩ := h
    rfl
  · rw [snapshot?_of_ne_nil hruns, Option.map_eq_some_iff] at h ⊢
    obtain ⟨_, hstats, heq⟩ := h
    cases heq
    exact ⟨_, hstats, rfl⟩

/-- The operations that a computation needs are in order. The store is needed only if there are runs. -/
structure InOrder (s : Stores) (q : HistoryQuery) : Prop where
  /-- the look-up -/
  find : s.fault .findDataflow = none
  /-- the query -/
  query : s.fault .queryRuns = none
  /-- the save -/
  save : s.history.latest q ≠ [] → s.fault .saveDataflow = none

theorem inOrder_working (history : MemoryHistory) (dataflows : MemoryDataflows) (q : HistoryQuery) :
    InOrder (.working history dataflows) q :=
  ⟨rfl, rfl, fun _ => rfl⟩

/-- The stores after a computation that gives a dataflow. -/
def storesAfter (s : Stores) (d : Dataflow) (runs : List Run) : Stores :=
  if runs = [] then s else { s with dataflows := s.dataflows.save d }

@[simp] theorem history_storesAfter : (storesAfter s d runs).history = s.history := by
  unfold storesAfter
  split <;> rfl

@[simp] theorem fault_storesAfter : (storesAfter s d runs).fault = s.fault := by
  unfold storesAfter
  split <;> rfl

theorem InOrder.storesAfter {q : HistoryQuery} (h : InOrder s q) : InOrder (storesAfter s d runs) q := by
  obtain ⟨hfind, hquery, hsave⟩ := h
  exact ⟨by rwa [fault_storesAfter], by rwa [fault_storesAfter],
    by rwa [history_storesAfter, fault_storesAfter]⟩

/-- The dataflow that a computation gives stands in the store afterwards. -/
theorem get?_storesAfter (hfound : s.dataflows.get? d.deploymentId = some d)
    (hsnapshot : snapshot? d runs = some (d', stats)) :
    (StatsService.storesAfter s d' runs).dataflows.get? d.deploymentId = some d' := by
  unfold StatsService.storesAfter
  by_cases hruns : runs = []
  · rw [snapshot?, if_pos hruns] at hsnapshot
    obtain ⟨rfl, rfl⟩ := hsnapshot
    rwa [if_pos hruns]
  · rw [if_neg hruns, ← deploymentId_of_snapshot? hsnapshot]
    exact MemoryDataflows.get?_save.trans (if_pos rfl)

/-- A computation gives a snapshot of the latest runs. -/
theorem run_computeInPlace_of_snapshot (h : Acceptable d o) (hquery : s.fault .queryRuns = none)
    (hsave : s.history.latest (queryOf d o) ≠ [] → s.fault .saveDataflow = none)
    (hsnapshot : snapshot? d (s.history.latest (queryOf d o)) = some (d', stats)) :
    ∃ events, ((computeInPlace o).program d).run Stores.serve s =
      ⟨(.ok stats, d'), events, storesAfter s d' (s.history.latest (queryOf d o))⟩ := by
  rw [run_computeInPlace h hquery, answered, storesAfter]
  by_cases hruns : s.history.latest (queryOf d o) = []
  · rw [snapshot?, if_pos hruns] at hsnapshot
    obtain ⟨rfl, rfl⟩ := hsnapshot
    rw [if_pos hruns, if_pos hruns]
    exact ⟨_, rfl⟩
  · rw [snapshot?_of_ne_nil hruns, Option.map_eq_some_iff] at hsnapshot
    obtain ⟨_, hstats, rfl, rfl⟩ := hsnapshot
    rw [if_neg hruns, if_neg hruns, Program.run_report, run_storing (hsave hruns) hstats]
    exact ⟨_, rfl⟩

/-- A computation that gives statistics has found all in order. -/
theorem of_run_computeInPlace_ok
    (h : (((computeInPlace o).program d).run Stores.serve s).result = (.ok stats, d')) :
    Acceptable d o ∧ s.fault .queryRuns = none ∧
      (s.history.latest (queryOf d o) ≠ [] → s.fault .saveDataflow = none) ∧
      snapshot? d (s.history.latest (queryOf d o)) = some (d', stats) := by
  by_cases hacceptable : Acceptable d o
  · cases hquery : s.fault .queryRuns with
    | some e => cases (congrArg (·.result) (run_computeInPlace_of_fault hacceptable hquery)).symm.trans h
    | none =>
      refine ⟨hacceptable, rfl, ?_⟩
      rw [run_computeInPlace hacceptable hquery, answered, Program.run_report] at h
      by_cases hruns : s.history.latest (queryOf d o) = []
      · rw [if_pos hruns] at h
        cases h
        exact ⟨fun hne => absurd hruns hne, if_pos hruns⟩
      · rw [if_neg hruns] at h
        rw [snapshot?_of_ne_nil hruns]
        cases hstats : computeRunTimeStats? (s.history.latest (queryOf d o)) with
        | none =>
          rw [storing, hstats] at h
          cases h
        | some stats' =>
          cases hsave : s.fault .saveDataflow with
          | some e =>
            rw [run_storing_of_fault hsave hstats] at h
            cases h
          | none =>
            rw [run_storing hsave hstats] at h
            cases h
            exact ⟨fun _ => rfl, rfl⟩
  · obtain ⟨v, hv⟩ := program_of_not_acceptable hacceptable
    rw [hv] at h
    cases h

/-! ## By deployment -/

/-- A computation for a deployment gives a snapshot of the latest runs. -/
theorem run_computeFor_of_snapshot (hid : Text.isBlank id = false) (hfound : s.dataflows.get? id = some d)
    (h : Acceptable d o) (horder : InOrder s (queryOf d o))
    (hsnapshot : snapshot? d (s.history.latest (queryOf d o)) = some (d', stats)) :
    ∃ events, (computeFor id o).run.run Stores.serve s =
      ⟨.ok (d', stats), events, storesAfter s d' (s.history.latest (queryOf d o))⟩ := by
  obtain ⟨events, hrun⟩ := run_computeInPlace_of_snapshot h horder.query horder.save hsnapshot
  refine ⟨events, ?_⟩
  rw [run_computeFor_of_found o hid horder.find hfound, hrun]
  rfl

/-- A computation for a deployment that gives statistics has found all in order. -/
theorem of_run_computeFor_ok
    (h : ((computeFor id o).run.run Stores.serve s).result = .ok (d', stats)) :
    ∃ d, Text.isBlank id = false ∧ s.dataflows.get? id = some d ∧ Acceptable d o ∧
      InOrder s (queryOf d o) ∧
      snapshot? d (s.history.latest (queryOf d o)) = some (d', stats) := by
  by_cases hmissing : Text.isBlank id = true ∨ s.fault .findDataflow ≠ none ∨ s.dataflows.get? id = none
  · obtain ⟨f, hf⟩ := run_computeFor_of_missing o hmissing
    rw [hf] at h
    cases h
  · rw [not_or, not_or, Bool.not_eq_true, Classical.not_not] at hmissing
    obtain ⟨hid, hfind, hfound⟩ := hmissing
    obtain ⟨d, hd⟩ := Option.ne_none_iff_exists'.1 hfound
    rw [run_computeFor_of_found o hid hfind hd] at h
    rcases hresult : (((computeInPlace o).program d).run Stores.serve s).result with ⟨f | stats', after⟩
    · rw [hresult] at h
      cases h
    · rw [hresult] at h
      cases h
      obtain ⟨hacceptable, hquery, hsave, hsnapshot⟩ := of_run_computeInPlace_ok hresult
      exact ⟨d, hid, hd, hacceptable, ⟨hfind, hquery, hsave⟩, hsnapshot⟩

end StatsService

end FlowRuns
