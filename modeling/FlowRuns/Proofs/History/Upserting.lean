import Mathlib.Data.Finset.Card
import FlowRuns.Proofs.History.Recording

/-!
# A history keeps the last version of each run

Recording puts a run in the place of the one with its id. However often an id comes up, within a batch or in
several, one run stands under it: the version that came last.

* `MemoryHistory.KeepsLast` — **what is kept** of the runs that were there and those that came after them.
* `MemoryHistory.KeepsLast.start`, `MemoryHistory.KeepsLast.record` — it holds of a history with one run
  under each id, and **one more batch** keeps it.
* `MemoryHistory.keepsLast_foldl` — so it holds after **all batches**.
* `MemoryHistory.record_upserts` — that, and what each call answers.
-/

namespace FlowRuns

namespace MemoryHistory

variable {h h' : MemoryHistory} {came runs : List Run}

/-- **What is kept** by a history that began as another one and to which runs came. -/
structure KeepsLast (h : MemoryHistory) (came : List Run) (h' : MemoryHistory) : Prop where
  /-- no two runs have the same id -/
  distinct : (h'.runs.map Run.flowRunId).Nodup
  /-- under an id stands the last run that has it, and nothing else -/
  version : ∀ id, (h'.runs.filter fun r => r.flowRunId = id) =
    ((h.runs ++ came).filter fun r => r.flowRunId = id).getLast?.toList
  /-- the ids stand in the order in which they first appeared -/
  ids : h'.runs.map Run.flowRunId = ((h.runs ++ came).map Run.flowRunId).eraseDups
  /-- there are as many runs as there are different ids -/
  size_eq : h'.size = ((h.runs ++ came).map Run.flowRunId).toFinset.card

/-- Ids in the order of their first appearance are as many as there are different ones. -/
theorem size_of_ids {all : List Run} (hids : h'.runs.map Run.flowRunId = (all.map Run.flowRunId).eraseDups)
    (hnodup : (h'.runs.map Run.flowRunId).Nodup) : h'.size = (all.map Run.flowRunId).toFinset.card := by
  have hset : (all.map Run.flowRunId).toFinset = (h'.runs.map Run.flowRunId).toFinset := by
    ext id
    rw [List.mem_toFinset, List.mem_toFinset, hids, List.mem_eraseDups]
  rw [hset, List.toFinset_card_of_nodup hnodup, List.length_map, size]

/-- A history with one run under each id keeps the last of what is there. -/
theorem KeepsLast.start (hnodup : (h.runs.map Run.flowRunId).Nodup) : KeepsLast h [] h := by
  have hids : h.runs.map Run.flowRunId = ((h.runs ++ []).map Run.flowRunId).eraseDups := by
    rw [List.append_nil, Rows.eraseDups_eq_foldl_addKey, Rows.foldl_addKey_of_nodup hnodup]
  refine ⟨hnodup, fun id => ?_, hids, size_of_ids hids hnodup⟩
  rw [List.append_nil, Rows.filter_eq_toList_first hnodup]
  cases Rows.first Run.flowRunId id h.runs with
  | none => rfl
  | some r => rfl

/-- **One more batch** is kept in the same way. -/
theorem KeepsLast.record (hkept : KeepsLast h came h') (runs : List Run) :
    KeepsLast h (came ++ runs) (h'.record runs) := by
  obtain ⟨hdistinct, hversion, hids, -⟩ := hkept
  have hafter : ((h'.record runs).runs.map Run.flowRunId).Nodup := nodup_record hdistinct
  have hkeys : (h'.record runs).runs.map Run.flowRunId =
      ((h.runs ++ (came ++ runs)).map Run.flowRunId).eraseDups := by
    rw [map_record, hids, ← List.append_assoc]
    generalize h.runs ++ came = before
    rw [List.map_append, Rows.eraseDups_eq_foldl_addKey, Rows.eraseDups_eq_foldl_addKey,
      List.foldl_append]
  refine ⟨hafter, fun id => ?_, hkeys, size_of_ids hkeys hafter⟩
  have hbefore : h'.find? id = ((h.runs ++ came).filter fun r => r.flowRunId = id).getLast? := by
    have hfirst := hversion id
    rw [Rows.filter_eq_toList_first hdistinct, ← find?_eq_first] at hfirst
    simpa only [Option.head?_toList] using congrArg List.head? hfirst
  rw [Rows.filter_eq_toList_first hafter, ← find?_eq_first, find?_record, hbefore, ← List.append_assoc]
  generalize h.runs ++ came = before
  rw [Rows.last_eq_getLast?_filter, List.filter_append, List.getLast?_append]

/-- **All batches**, recorded one after the other. -/
theorem keepsLast_foldl (hkept : KeepsLast h came h') (batches : List (List Run)) :
    KeepsLast h (came ++ batches.flatten) (batches.foldl MemoryHistory.record h') := by
  induction batches generalizing came h' with
  | nil => rwa [List.flatten_nil, List.append_nil]
  | cons runs batches ih =>
    rw [List.flatten_cons, ← List.append_assoc]
    exact ih (hkept.record runs)

/-! ## For all batches -/

/-- **Recording is an upsert by id.** Of a history with one run under each id, and of any batches that are
recorded one after the other, the last version of each run is kept. Then every call answers with the size of
its batch, recording a batch once more changes nothing, and to record two batches together is to record one
and then the other. -/
theorem record_upserts (hdistinct : (h.runs.map Run.flowRunId).Nodup) (batches : List (List Run)) :
    let h' := batches.foldl MemoryHistory.record h
    KeepsLast h batches.flatten h' ∧
      (∀ runs, serve (.record runs) h' = (.ok (batchSize runs), h'.record runs) ∧
        (runs.length < UInt64.size → (batchSize runs).toNat = runs.length)) ∧
      (∀ runs, (h'.record runs).record runs = h'.record runs) ∧
      ∀ first second, h'.record (first ++ second) = (h'.record first).record second := by
  intro h'
  have hkept : KeepsLast h batches.flatten h' := by
    have hkept := keepsLast_foldl (.start hdistinct) batches
    rwa [List.nil_append] at hkept
  exact ⟨hkept, fun runs => ⟨rfl, UInt64.toNat_ofNat_of_lt'⟩, fun _ => record_record hkept.distinct,
    fun _ _ => record_append⟩

/-- One run is there already; of two others one comes up twice in the first batch, and the second batch
replaces the run that was there and brings a new one. -/
theorem record_upserts_repeated :
    let run (id : String) (second : Int) : Run :=
      { (default : Run) with flowRunId := id, startTime := ⟨second, 0⟩ }
    let h : MemoryHistory := ⟨[run "a" 0]⟩
    let batches := [[run "b" 1, run "c" 2, run "b" 3], [run "a" 4, run "d" 5]]
    let h' := batches.foldl MemoryHistory.record h
    (h.runs.map Run.flowRunId).Nodup ∧ h'.runs = [run "a" 4, run "b" 3, run "c" 2, run "d" 5] ∧
      KeepsLast h batches.flatten h' := by
  intro run h batches h'
  have hdistinct : (h.runs.map Run.flowRunId).Nodup := List.nodup_singleton "a"
  exact ⟨hdistinct, by decide +kernel, (record_upserts hdistinct batches).1⟩

end MemoryHistory

end FlowRuns
