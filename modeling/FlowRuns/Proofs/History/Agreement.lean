import FlowRuns.Proofs.History.Latest
import FlowRuns.Proofs.History.Recording

/-!
# A history in memory beside the table of runs

Runs are recorded batch by batch, in memory and in the table. In memory a run takes the place of the one
that was recorded under its id before; in the table the row under its id takes over all columns but the
deployment. So the two hold the same runs in the same order, except that the table keeps each run under the
deployment under which its id was recorded first.

* `RunTable.asFirstRecorded` — a run under that deployment.
* `RunTable.first_upsert`, `RunTable.first_record` — the row under an id, after one run and after any
  number.
* `RunTable.rows_record` — the rows of the table are the runs in memory, each under its first deployment.
* `RunTable.DeploymentsKept` — no id moves from one deployment to another.
* `RunTable.selects_record_batches` — what the two answer.
-/

namespace FlowRuns

namespace RunTable

variable {t : RunTable} {run : Run} {runs : List Run} {id : String}

/-! ## The row under an id -/

theorem merge_eq (new old : Run) :
    merge new old = { new with deploymentId := old.deploymentId, flowRunId := old.flowRunId } := rfl

theorem map_upsert : (t.upsert run).rows.map Run.flowRunId =
    Rows.addKey (t.rows.map Run.flowRunId) run.flowRunId :=
  Tables.map_upsert fun _ => rfl

theorem first_upsert : Rows.first Run.flowRunId id (t.upsert run).rows =
    if run.flowRunId = id then
      some (((Rows.first Run.flowRunId id t.rows).map (merge run)).getD run)
    else Rows.first Run.flowRunId id t.rows :=
  Tables.first_upsert (fun _ => rfl) id

theorem record_concat : t.record (runs ++ [run]) = (t.record runs).upsert run := by
  rw [record, List.foldl_append]
  rfl

/-- Batch by batch, runs are recorded as all at once. -/
theorem foldl_record (batches : List (List Run)) : batches.foldl record t = t.record batches.flatten :=
  List.foldl_flatten.symm

theorem map_record : (t.record runs).rows.map Run.flowRunId =
    (runs.map Run.flowRunId).foldl Rows.addKey (t.rows.map Run.flowRunId) := by
  induction runs generalizing t with
  | nil => rfl
  | cons run runs ih =>
    rw [record, List.foldl_cons, ← record, ih, map_upsert, List.map_cons, List.foldl_cons]

/-- The run under the deployment under which its id was first recorded. -/
def asFirstRecorded (recorded : List Run) (r : Run) : Run :=
  { r with deploymentId :=
      ((Rows.first Run.flowRunId r.flowRunId recorded).map Run.deploymentId).getD r.deploymentId }

theorem asFirstRecorded_of_first {r first : Run}
    (h : Rows.first Run.flowRunId r.flowRunId runs = some first) :
    asFirstRecorded runs r = { r with deploymentId := first.deploymentId } := by
  rw [asFirstRecorded, h]
  rfl

/-- **One run**: the row under its id takes over all columns but the deployment. -/
theorem first_upsert_asFirstRecorded
    (h : Rows.first Run.flowRunId id t.rows =
      (Rows.last Run.flowRunId id runs).map (asFirstRecorded runs)) :
    Rows.first Run.flowRunId id (t.upsert run).rows =
      (Rows.last Run.flowRunId id (runs ++ [run])).map (asFirstRecorded (runs ++ [run])) := by
  rw [first_upsert, h, Rows.last_concat]
  rcases hlast : Rows.last Run.flowRunId id runs with _ | last
  · -- the id is new
    by_cases hid : run.flowRunId = id
    · have hfirst : Rows.first Run.flowRunId run.flowRunId (runs ++ [run]) = some run := by
        rw [Rows.first_concat, if_pos rfl, hid, Rows.first_eq_none_iff.2 (Rows.last_eq_none_iff.1 hlast)]
        rfl
      rw [if_pos hid, if_pos hid, Option.map_some, asFirstRecorded_of_first hfirst]
      rfl
    · rw [if_neg hid, if_neg hid]
      rfl
  · -- the id was recorded before, so its first record stays the first
    obtain ⟨first, hfirst⟩ := Rows.exists_first_of_last hlast
    have hkept : Rows.first Run.flowRunId id (runs ++ [run]) = some first := by
      rw [Rows.first_concat, hfirst]
      rfl
    obtain rfl := Rows.key_of_last hlast
    by_cases hid : run.flowRunId = last.flowRunId
    · have hrun : asFirstRecorded (runs ++ [run]) run =
          { run with deploymentId := first.deploymentId } := asFirstRecorded_of_first (hid ▸ hkept)
      rw [if_pos hid, if_pos hid, Option.map_some, Option.map_some, Option.map_some, hrun,
        asFirstRecorded_of_first hfirst, merge_eq, ← hid]
      rfl
    · rw [if_neg hid, if_neg hid, Option.map_some, Option.map_some, asFirstRecorded_of_first hfirst,
        asFirstRecorded_of_first hkept]

/-- **Any number of runs**: under each id stands the run that was recorded last, but for its deployment. -/
theorem first_record : Rows.first Run.flowRunId id (empty.record runs).rows =
    (Rows.last Run.flowRunId id runs).map (asFirstRecorded runs) := by
  induction runs using List.reverseRecOn with
  | nil => rfl
  | append_singleton runs run ih => rw [record_concat, first_upsert_asFirstRecorded ih]

theorem nodup_record : ((empty.record runs).rows.map Run.flowRunId).Nodup := by
  rw [map_record]
  exact Rows.nodup_foldl_addKey List.nodup_nil _

/-! ## The two beside each other -/

/-- **Both hold the same runs in the same order**, in the table each under its first deployment. -/
theorem rows_record : (empty.record runs).rows =
    (MemoryHistory.empty.record runs).runs.map (asFirstRecorded runs) := by
  have hkeys : ((MemoryHistory.empty.record runs).runs.map (asFirstRecorded runs)).map Run.flowRunId =
      (empty.record runs).rows.map Run.flowRunId := by
    rw [List.map_map, map_record]
    exact MemoryHistory.map_record
  refine Rows.eq_of_first hkeys.symm nodup_record fun id _ => ?_
  rw [first_record, Rows.first_map (f := asFirstRecorded runs) fun _ => rfl,
    MemoryHistory.first_record]

/-- No id moves: the deployment under which it was recorded last is the one under which it was recorded
first. -/
def DeploymentsKept (recorded : List Run) : Prop :=
  ∀ id, (Rows.last Run.flowRunId id recorded).map Run.deploymentId =
    (Rows.first Run.flowRunId id recorded).map Run.deploymentId

theorem rows_record_of_kept (h : DeploymentsKept runs) :
    (empty.record runs).rows = (MemoryHistory.empty.record runs).runs := by
  have hsame : ∀ r ∈ (MemoryHistory.empty.record runs).runs, asFirstRecorded runs r = id r := by
    intro r hr
    have hlast := MemoryHistory.last_of_mem_record hr
    obtain ⟨first, hfirst⟩ := Rows.exists_first_of_last hlast
    have hkept := h r.flowRunId
    rw [hlast, hfirst] at hkept
    rw [asFirstRecorded_of_first hfirst, ← Option.some.inj hkept]
    rfl
  rw [rows_record, List.map_congr_left hsame, List.map_id]

/-- A query that shows that an id has moved: it asks for all runs in the deployment and the state in which
the run was recorded last. -/
theorem kept_of_latest_eq (hroom : (MemoryHistory.empty.record runs).size < UInt32.size)
    (h : ∀ q, (MemoryHistory.mk (empty.record runs).rows).latest q =
      (MemoryHistory.empty.record runs).latest q) : DeploymentsKept runs := by
  intro id
  rcases hlast : Rows.last Run.flowRunId id runs with _ | last
  · rw [Rows.first_eq_none_iff.2 (Rows.last_eq_none_iff.1 hlast)]
  obtain rfl := Rows.key_of_last hlast
  let q : HistoryQuery := ⟨last.deploymentId, [last.status],
    UInt32.ofNat (MemoryHistory.empty.record runs).size⟩
  have hlimit : (MemoryHistory.empty.record runs).size ≤ q.limit.toNat :=
    Nat.le_of_eq (UInt32.toNat_ofNat_of_lt' hroom).symm
  have hadmits : q.admits last = true := by simp [q, HistoryQuery.admits]
  have hmem : last ∈ (MemoryHistory.empty.record runs).latest q :=
    MemoryHistory.mem_latest_of_roomy hlimit
      (Rows.mem_of_first (MemoryHistory.first_record.trans hlast)) hadmits
  have hrow : last ∈ (empty.record runs).rows := (MemoryHistory.mem_of_mem_latest (h q ▸ hmem)).1
  -- so the row under the id of the run is the run itself, with its own deployment
  have hfirstRow := Rows.first_of_mem nodup_record hrow
  obtain ⟨first, hfirst⟩ := Rows.exists_first_of_last hlast
  rw [first_record, hlast, Option.map_some, asFirstRecorded_of_first hfirst] at hfirstRow
  rw [hfirst]
  exact (congrArg (Option.map Run.deploymentId) hfirstRow).symm

/-- **What the table answers, and when a history in memory answers the same.** After any batches, a
selection from the table has one answer: that of a history in memory with each run under its first
deployment. It is the answer of the history in memory as it is if no id has moved from one deployment to
another, and, as long as fewer runs are kept than a query can ask for, only then. -/
theorem selects_record_batches (batches : List (List Run)) :
    let memory := batches.foldl MemoryHistory.record .empty
    let table := batches.foldl record empty
    (∀ q answer, table.Selects q answer ↔
      answer = (MemoryHistory.mk (memory.runs.map (asFirstRecorded batches.flatten))).latest q) ∧
    (DeploymentsKept batches.flatten → ∀ q answer, table.Selects q answer ↔ answer = memory.latest q) ∧
    (memory.size < UInt32.size → (∀ q, table.Selects q (memory.latest q)) →
      DeploymentsKept batches.flatten) := by
  intro memory table
  have hmemory : memory = MemoryHistory.empty.record batches.flatten :=
    MemoryHistory.foldl_record batches
  have htable : table = empty.record batches.flatten := foldl_record batches
  have hselects : ∀ q answer, table.Selects q answer ↔
      answer = (MemoryHistory.mk table.rows).latest q := by
    intro q answer
    exact selects_iff_latest (htable ▸ nodup_record)
  refine ⟨fun q answer => ?_, fun hkept q answer => ?_, fun hroom hagree => ?_⟩
  · rw [hselects, htable, rows_record, hmemory]
  · rw [hselects, htable, rows_record_of_kept hkept, hmemory]
  · rw [hmemory] at hroom
    refine kept_of_latest_eq hroom fun q => ?_
    rw [← htable, ← hmemory]
    exact ((hselects q _).1 (hagree q)).symm

/-- A run that is recorded as under way and then as ended: the table answers as the history in memory
does. -/
theorem selects_record_batches_ended :
    let started : Run := { (default : Run) with deploymentId := "dep", flowRunId := "a", status := .running }
    let ended : Run := { started with name := "a-2", status := .completed, stateName := "Completed" }
    let memory := [[started], [ended]].foldl MemoryHistory.record .empty
    let table := [[started], [ended]].foldl record empty
    DeploymentsKept [started, ended] ∧
      ∀ q answer, table.Selects q answer ↔ answer = memory.latest q := by
  intro started ended memory table
  have hkept : DeploymentsKept [started, ended] := by
    intro id
    by_cases hid : "a" = id
    · subst hid
      decide
    · have hnone : id ∉ [started, ended].map Run.flowRunId := by
        simpa [started, ended] using Ne.symm hid
      rw [Rows.last_eq_none_iff.2 hnone, Rows.first_eq_none_iff.2 hnone]
  exact ⟨hkept, (selects_record_batches [[started], [ended]]).2.1 hkept⟩

/-- A run that is recorded again under another deployment has moved there in memory, and has not moved in
the table. -/
theorem not_selects_latest_moved :
    let run : Run := { (default : Run) with deploymentId := "dep", flowRunId := "a" }
    let moved : Run := { run with deploymentId := "other" }
    let memory := [[run], [moved]].foldl MemoryHistory.record .empty
    let table := [[run], [moved]].foldl record empty
    let q : HistoryQuery := ⟨"other", [run.status], 10⟩
    moved ∈ memory.latest q ∧ table.Selects q [] ∧ ¬ table.Selects q (memory.latest q) := by
  intro run moved memory table q
  have hmem : moved ∈ memory.latest q :=
    MemoryHistory.mem_latest_of_roomy (by decide) (by decide) (by decide)
  have hnone : table.Selects q [] := ⟨[], by decide, List.Pairwise.nil, rfl⟩
  refine ⟨hmem, hnone, ?_⟩
  have hnodup : (table.rows.map Run.flowRunId).Nodup := by decide
  rw [selects_iff_latest hnodup, ← (selects_iff_latest hnodup).1 hnone]
  exact List.ne_nil_of_mem hmem

end RunTable

end FlowRuns
