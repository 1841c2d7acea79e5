import FlowRuns.Proofs.History.Latest
import FlowRuns.Proofs.History.Recording

/-!
# Histories with the same runs

Two histories in memory may have come about in different ways: in other batches, in another order, by way
of other versions of a run. What they answer depends only on the run that each keeps under each id. The
order of their runs differs, and the order in which a query gives runs settles that, since no two runs with
different ids stand level in it.

* `MemoryHistory.SameRuns` — the same run under each id.
* `MemoryHistory.SameRuns.latest_eq` — such histories give the same answer to every query.
* `MemoryHistory.SameRuns.record` — and still do when the same runs are recorded in both.
* `MemoryHistory.sameRuns_iff_last` — which batches lead to such histories.
-/

namespace FlowRuns

namespace MemoryHistory

/-- Two histories keep one run under each id, and it is the same in both. -/
structure SameRuns (h h' : MemoryHistory) : Prop where
  /-- one run under each id -/
  nodup : (h.runs.map Run.flowRunId).Nodup
  /-- one run under each id, in the other history too -/
  nodup' : (h'.runs.map Run.flowRunId).Nodup
  /-- the same run -/
  find?_eq : ∀ id, h.find? id = h'.find? id

variable {h h' : MemoryHistory}

namespace SameRuns

/-- The runs are the same up to their order. -/
theorem perm (hsame : SameRuns h h') : h.runs.Perm h'.runs :=
  Rows.perm_of_first hsame.nodup hsame.nodup' hsame.find?_eq

/-- **The same answer to every query**, at the limit too. -/
theorem latest_eq (hsame : SameRuns h h') (q : HistoryQuery) : h.latest q = h'.latest q := by
  -- both answers are selections from the table of the same rows, and a selection has one answer
  have hselects : RunTable.Selects ⟨h'.runs⟩ q (h.latest q) := by
    have hfilter : (h.runs.filter fun r => RunTable.Asked q r).Perm
        (h'.runs.filter fun r => RunTable.Asked q r) := hsame.perm.filter _
    obtain ⟨ordered, hordered, hbefore, heq⟩ :=
      (RunTable.selects_iff_latest (t := ⟨h.runs⟩) hsame.nodup).2 (rfl : h.latest q = _)
    exact ⟨ordered, hordered.trans hfilter, hbefore, heq⟩
  exact (RunTable.selects_iff_latest hsame.nodup').1 hselects

/-- The same runs are recorded in both. -/
theorem record (hsame : SameRuns h h') (runs : List Run) :
    SameRuns (h.record runs) (h'.record runs) where
  nodup := nodup_record hsame.nodup
  nodup' := nodup_record hsame.nodup'
  find?_eq id := by rw [find?_record, find?_record, hsame.find?_eq]

end SameRuns

/-- **Batches lead to the same runs** exactly if each id was recorded last with the same run, whatever was
recorded under it before, and in whatever order. -/
theorem sameRuns_iff_last (batches batches' : List (List Run)) :
    SameRuns (batches.foldl MemoryHistory.record .empty) (batches'.foldl MemoryHistory.record .empty) ↔
      ∀ id, Rows.last Run.flowRunId id batches.flatten = Rows.last Run.flowRunId id batches'.flatten := by
  have hfind : ∀ id (bs : List (List Run)),
      (bs.foldl MemoryHistory.record .empty).find? id = Rows.last Run.flowRunId id bs.flatten :=
    fun id bs => by rw [foldl_record, find?_eq_first, first_record]
  have hnodup : ∀ bs : List (List Run),
      ((bs.foldl MemoryHistory.record .empty).runs.map Run.flowRunId).Nodup :=
    fun bs => by rw [foldl_record]; exact nodup_record List.nodup_nil
  constructor
  · intro hsame id
    rw [← hfind, ← hfind, hsame.find?_eq]
  · intro hlast
    exact ⟨hnodup _, hnodup _, fun id => by rw [hfind, hfind, hlast]⟩

end MemoryHistory

end FlowRuns
