import FlowRuns.History.Memory

/-!
# Runs of other deployments

The runs of all deployments stand in one list. A query considers those of its own deployment, so what the
list holds of others does not matter, nor where it stands. Recording a run of another deployment leaves them
alone, as long as no run of the deployment has its id.

* `MemoryHistory.latest_congr` — a query considers the runs of its deployment.
* `MemoryHistory.Foreign` — runs that do not concern a deployment.
* `MemoryHistory.ofDeployment_upsert`, `MemoryHistory.ofDeployment_record` — **foreign runs do not disturb.**
-/

namespace FlowRuns

namespace MemoryHistory

variable {h h' : MemoryHistory} {id : String} {run : Run} {runs : List Run}

/-- The runs of a deployment, in order. -/
def ofDeployment (id : String) (runs : List Run) : List Run := runs.filter fun r => r.deploymentId = id

/-- A run is of another deployment, and so is what it takes the place of. -/
structure Foreign (id : String) (runs : List Run) (run : Run) : Prop where
  /-- it is of another deployment -/
  deploymentId : run.deploymentId ≠ id
  /-- no run of the deployment has its id -/
  flowRunId : ∀ own ∈ ofDeployment id runs, own.flowRunId ≠ run.flowRunId

theorem Foreign.congr {runs' : List Run} (h : Foreign id runs run)
    (hruns : ofDeployment id runs' = ofDeployment id runs) : Foreign id runs' run :=
  ⟨h.deploymentId, hruns ▸ h.flowRunId⟩

theorem ofDeployment_cons_of_ne (h : run.deploymentId ≠ id) :
    ofDeployment id (run :: runs) = ofDeployment id runs :=
  List.filter_cons_of_neg fun heq => h (of_decide_eq_true heq)

theorem ofDeployment_cons_of_eq (h : run.deploymentId = id) :
    ofDeployment id (run :: runs) = run :: ofDeployment id runs :=
  List.filter_cons_of_pos (decide_eq_true h)

/-- A query considers the runs of its deployment only. -/
theorem latest_congr {q : HistoryQuery}
    (hruns : ofDeployment q.deploymentId h.runs = ofDeployment q.deploymentId h'.runs) :
    h.latest q = h'.latest q := by
  have hfilter (h : MemoryHistory) : h.runs.filter q.admits =
      (ofDeployment q.deploymentId h.runs).filter fun r => q.statuses.contains r.status := by
    rw [ofDeployment, List.filter_filter]
    exact List.filter_congr fun r _ => Bool.and_comm _ _
  rw [latest, latest, hfilter, hfilter, hruns]

/-- **A foreign run** does not disturb, wherever it stands. -/
theorem ofDeployment_upsert (h : Foreign id runs run) :
    ofDeployment id (upsert run runs) = ofDeployment id runs := by
  induction runs with
  | nil => exact ofDeployment_cons_of_ne h.deploymentId
  | cons r runs ih =>
    rw [upsert]
    by_cases hr : r.deploymentId = id
    · have hown := h.flowRunId
      rw [ofDeployment_cons_of_eq hr] at hown
      rw [if_neg (hown r List.mem_cons_self), ofDeployment_cons_of_eq hr, ofDeployment_cons_of_eq hr,
        ih ⟨h.deploymentId, fun own hmem => hown own (List.mem_cons_of_mem r hmem)⟩]
    · have hrest := ih ⟨h.deploymentId, ofDeployment_cons_of_ne hr ▸ h.flowRunId⟩
      split
      · rw [ofDeployment_cons_of_ne h.deploymentId, ofDeployment_cons_of_ne hr]
      · rw [ofDeployment_cons_of_ne hr, ofDeployment_cons_of_ne hr, hrest]

/-- **Any number of foreign runs**. -/
theorem ofDeployment_record (hforeign : ∀ run ∈ runs, Foreign id h.runs run) :
    ofDeployment id (h.record runs).runs = ofDeployment id h.runs := by
  induction runs generalizing h with
  | nil => rfl
  | cons run runs ih =>
    have hupsert : ofDeployment id (upsert run h.runs) = ofDeployment id h.runs :=
      ofDeployment_upsert (hforeign run List.mem_cons_self)
    refine (ih (h := ⟨upsert run h.runs⟩) fun later hlater => ?_).trans hupsert
    -- what is foreign at first stays so, since the runs of the deployment are the same
    exact (hforeign later (List.mem_cons_of_mem run hlater)).congr hupsert

end MemoryHistory

end FlowRuns
