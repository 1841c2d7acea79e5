import FlowRuns.History.Memory
import FlowRuns.Proofs.Database.Rows

/-!
# The latest runs

The order of runs, newest first and by id where start times are the same, is an order in which no two runs
with different ids stand level. So a selection from a table with one row under each id leaves nothing open:
its answer is the one that a history in memory gives of the same rows.

* `RunTable.Before.trans`, `RunTable.Before.total`, `RunTable.Before.flowRunId_eq` — the order.
* `MemoryHistory.admitted_perm`, `MemoryHistory.admitted_pairwise` — what a history in memory answers from.
* `RunTable.selects_iff_latest` — the answers of a table.
-/

namespace FlowRuns

/-! ## Newest first -/

namespace RunTable

variable {a b c : Run}

theorem Before.trans (hab : Before a b) (hbc : Before b c) : Before a c := by
  obtain hab | ⟨hab, hid⟩ := hab
  · obtain hbc | ⟨hbc, -⟩ := hbc
    · exact .inl (Instant.lt_trans hbc hab)
    · exact .inl (hbc ▸ hab)
  · obtain hbc | ⟨hbc, hid'⟩ := hbc
    · exact .inl (hab ▸ hbc)
    · exact .inr ⟨hab.trans hbc, String.le_trans hid' hid⟩

theorem Before.total (a b : Run) : Before a b ∨ Before b a := by
  obtain h | h | h := Instant.lt_or_eq_or_gt a.startTime b.startTime
  · exact .inr (.inl h)
  · exact (String.le_total b.flowRunId a.flowRunId).imp (fun hid => .inr ⟨h, hid⟩)
      fun hid => .inr ⟨h.symm, hid⟩
  · exact .inl (.inl h)

/-- Runs that may stand either way round have the same id. -/
theorem Before.flowRunId_eq (hab : Before a b) (hba : Before b a) : a.flowRunId = b.flowRunId := by
  obtain hab | ⟨hab, hid⟩ := hab
  · obtain hba | ⟨hba, -⟩ := hba
    · exact absurd (Instant.lt_trans hab hba) (Instant.lt_irrefl _)
    · exact absurd (hba ▸ hab) (Instant.lt_irrefl _)
  · obtain hba | ⟨-, hid'⟩ := hba
    · exact absurd (hab ▸ hba) (Instant.lt_irrefl _)
    · exact String.le_antisymm hid' hid

theorem asked_iff_admits {q : HistoryQuery} : Asked q a ↔ q.admits a = true := by
  simp only [Asked, HistoryQuery.admits, List.mem_map, Status.name_inj, exists_eq_right,
    Bool.and_eq_true, decide_eq_true_eq, List.contains_iff_mem]

end RunTable

namespace MemoryHistory

variable {h : MemoryHistory} {q : HistoryQuery}

theorem newestFirst_iff_before {a b : Run} : newestFirst a b = true ↔ RunTable.Before a b := by
  simp only [newestFirst, RunTable.Before, Bool.or_eq_true, Bool.and_eq_true, decide_eq_true_eq,
    eq_comm (a := b.startTime)]

theorem newestFirst_trans (a b c : Run) (hab : newestFirst a b = true) (hbc : newestFirst b c = true) :
    newestFirst a c = true :=
  newestFirst_iff_before.2 ((newestFirst_iff_before.1 hab).trans (newestFirst_iff_before.1 hbc))

theorem newestFirst_total (a b : Run) : (newestFirst a b || newestFirst b a) = true := by
  rw [Bool.or_eq_true, newestFirst_iff_before, newestFirst_iff_before]
  exact RunTable.Before.total a b

/-- The runs that a query admits, newest first. -/
abbrev admitted (h : MemoryHistory) (q : HistoryQuery) : List Run :=
  (h.runs.filter q.admits).mergeSort newestFirst

theorem admitted_pairwise : (h.admitted q).Pairwise RunTable.Before := by
  have hsorted : (h.admitted q).Pairwise fun a b => newestFirst a b = true :=
    List.pairwise_mergeSort newestFirst_trans newestFirst_total _
  exact hsorted.imp newestFirst_iff_before.1

theorem admitted_perm : (h.admitted q).Perm (h.runs.filter q.admits) := List.mergeSort_perm _ _

theorem mem_of_mem_latest {r : Run} (hr : r ∈ h.latest q) : r ∈ h.runs ∧ q.admits r = true :=
  List.mem_filter.1 (admitted_perm.mem_iff.1 (List.mem_of_mem_take hr))

/-- A query with room for all runs gets all that it admits. -/
theorem mem_latest_of_roomy {r : Run} (hroom : h.size ≤ q.limit.toNat) (hr : r ∈ h.runs)
    (hadmits : q.admits r = true) : r ∈ h.latest q := by
  have hlength : (h.admitted q).length ≤ q.limit.toNat := by
    rw [admitted_perm.length_eq]
    exact Nat.le_trans (List.length_filter_le _ _) hroom
  rw [latest, List.take_of_length_le hlength]
  exact admitted_perm.mem_iff.2 (List.mem_filter.2 ⟨hr, hadmits⟩)

end MemoryHistory

namespace RunTable

/-- **A selection has one answer**, where there is one row under each id: the one that a history in memory
gives of the same rows. -/
theorem selects_iff_latest {t : RunTable} (hnodup : (t.rows.map Run.flowRunId).Nodup)
    {q : HistoryQuery} {answer : List Run} :
    t.Selects q answer ↔ answer = (MemoryHistory.mk t.rows).latest q := by
  have hfilter : (t.rows.filter fun r => Asked q r) = t.rows.filter q.admits :=
    List.filter_congr fun r _ => by simp only [asked_iff_admits, Bool.decide_eq_true]
  have hperm := MemoryHistory.admitted_perm (h := ⟨t.rows⟩) (q := q)
  unfold Selects
  rw [hfilter]
  constructor
  · rintro ⟨ordered, hordered, hbefore, rfl⟩
    have hrows : ∀ r ∈ ordered, r ∈ t.rows := fun r hr =>
      (List.mem_filter.1 (hordered.mem_iff.1 hr)).1
    have heq : ordered = MemoryHistory.admitted ⟨t.rows⟩ q := by
      refine List.Perm.eq_of_pairwise (fun a b ha hb hab hba => ?_) hbefore
        MemoryHistory.admitted_pairwise (hordered.trans hperm.symm)
      -- runs that may stand either way round are the one row under their id
      have hb := hrows b (hordered.mem_iff.2 (hperm.mem_iff.1 hb))
      refine Option.some.inj ?_
      rw [← Rows.first_of_mem hnodup (hrows a ha), ← Rows.first_of_mem hnodup hb,
        hab.flowRunId_eq hba]
    rw [heq]
    rfl
  · rintro rfl
    exact ⟨_, hperm, MemoryHistory.admitted_pairwise, rfl⟩

end RunTable

end FlowRuns
