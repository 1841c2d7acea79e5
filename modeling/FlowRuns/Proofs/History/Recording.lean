import FlowRuns.History.Memory
import FlowRuns.Proofs.Database.Rows

/-!
# Recording in memory

A history in memory after runs were recorded: under each flow run id stands the run that was recorded last,
and the ids stand in the order in which they first appeared.

* `MemoryHistory.map_record` — the ids, in order.
* `MemoryHistory.find?_record` — the run under each id.
* `MemoryHistory.foldl_record` — recording batch by batch is recording all of them at once.
* `MemoryHistory.record_record` — recording the same runs once more changes nothing.
-/

namespace FlowRuns

namespace MemoryHistory

variable {h : MemoryHistory} {run : Run} {runs : List Run} {id : String}

theorem find?_eq_first : h.find? id = Rows.first Run.flowRunId id h.runs := rfl

theorem upsert_eq_put : upsert run runs = Rows.put Run.flowRunId run runs := by
  induction runs with
  | nil => rfl
  | cons r runs ih => rw [upsert, Rows.put, ih]

theorem runs_record : (h.record runs).runs =
    runs.foldl (fun rows r => Rows.put Run.flowRunId r rows) h.runs := by
  simp only [record, upsert_eq_put]

theorem record_append {more : List Run} : h.record (runs ++ more) = (h.record runs).record more := by
  rw [record, List.foldl_append]
  rfl

/-- Batch by batch, runs are recorded as all at once. -/
theorem foldl_record (batches : List (List Run)) : batches.foldl record h = h.record batches.flatten := by
  induction batches generalizing h with
  | nil => rfl
  | cons runs batches ih => rw [List.foldl_cons, ih, List.flatten_cons, record_append]

/-- Ids stand in the order in which they first appeared. -/
theorem map_record :
    (h.record runs).runs.map Run.flowRunId =
      (runs.map Run.flowRunId).foldl Rows.addKey (h.runs.map Run.flowRunId) := by
  rw [runs_record, Rows.map_foldl_put]

/-- The run with an id is the one that was recorded last, or the one that was there if none was. -/
theorem find?_record :
    (h.record runs).find? id = (Rows.last Run.flowRunId id runs).or (h.find? id) := by
  rw [find?_eq_first, find?_eq_first, runs_record, Rows.first_foldl_put]

/-- From no runs on, the run with an id is the one that was recorded last. -/
theorem first_record :
    Rows.first Run.flowRunId id (empty.record runs).runs = Rows.last Run.flowRunId id runs := by
  rw [← find?_eq_first, find?_record]
  exact Option.or_none

/-- No two runs with one id are kept, if there were none before. -/
theorem nodup_record (hnodup : (h.runs.map Run.flowRunId).Nodup) :
    ((h.record runs).runs.map Run.flowRunId).Nodup := by
  rw [map_record]
  exact Rows.nodup_foldl_addKey hnodup _

/-- **Runs that are recorded once more** change nothing. -/
theorem record_record (hnodup : (h.runs.map Run.flowRunId).Nodup) :
    (h.record runs).record runs = h.record runs := by
  -- no id is new, and under each id the same run was recorded last
  have hkeys : ((h.record runs).record runs).runs.map Run.flowRunId =
      (h.record runs).runs.map Run.flowRunId := by
    rw [map_record]
    refine Rows.foldl_addKey_of_subset fun k hk => ?_
    rw [map_record]
    exact Rows.mem_foldl_addKey.2 (.inr hk)
  have hfirst : ∀ k, Rows.first Run.flowRunId k ((h.record runs).record runs).runs =
      Rows.first Run.flowRunId k (h.record runs).runs := fun k => by
    rw [← find?_eq_first, ← find?_eq_first, find?_record, find?_record, ← Option.or_assoc, Option.or_self]
  exact congrArg MemoryHistory.mk
    (Rows.eq_of_first hkeys (nodup_record (nodup_record hnodup)) fun k _ => hfirst k)

/-- A run that is kept was recorded last under its id. -/
theorem last_of_mem_record (hrun : run ∈ (empty.record runs).runs) :
    Rows.last Run.flowRunId run.flowRunId runs = some run := by
  rw [← first_record]
  exact Rows.first_of_mem (nodup_record List.nodup_nil) hrun

end MemoryHistory

end FlowRuns
