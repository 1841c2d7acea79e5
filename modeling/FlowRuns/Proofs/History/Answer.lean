import FlowRuns.Proofs.History.Latest

/-!
# What a history in memory answers

A query gets the newest of the runs that are wanted, as many as it has room for. That leaves the answer open
only among runs with one id; where no two runs have the same id, it does not matter in which order they are
kept. It never matters in which order, or how often, the query names a state, and less room cuts the same
answer earlier.

* `Run.NewerThan` — the order of runs, strictly.
* `MemoryHistory.wanted` — the runs that a query wants.
* `MemoryHistory.Newest` — **the newest of the wanted runs**, in order.
* `MemoryHistory.Newest.eq_latest` — there is one such list where no two runs have the same id.
* `MemoryHistory.latest_newest` — **the answer is such a list**, for all histories and queries.
-/

namespace FlowRuns

variable {a b : Run}

/-- A run stands before another: it started later, or at the same time and has the greater id. -/
def Run.NewerThan (a b : Run) : Prop :=
  b.startTime < a.startTime ∨ a.startTime = b.startTime ∧ b.flowRunId < a.flowRunId

/-- If a run does not stand before another, the other may stand before it. -/
theorem RunTable.Before.of_not_newerThan (h : ¬ a.NewerThan b) : RunTable.Before b a := by
  obtain hab | hab | hab := Instant.lt_or_eq_or_gt a.startTime b.startTime
  · exact .inl hab
  · refine .inr ⟨hab.symm, String.not_lt.1 fun hid => h (.inr ⟨hab, hid⟩)⟩
  · exact absurd (.inl hab) h

theorem RunTable.Before.not_newerThan (h : RunTable.Before a b) : ¬ b.NewerThan a := by
  obtain h | ⟨h, hid⟩ := h
  · rintro (hba | ⟨hba, -⟩)
    · exact Instant.lt_irrefl _ (Instant.lt_trans h hba)
    · exact Instant.lt_irrefl _ (hba ▸ h)
  · rintro (hba | ⟨-, hid'⟩)
    · exact Instant.lt_irrefl _ (h ▸ hba)
    · exact String.not_le.2 hid' hid

namespace MemoryHistory

variable {h h' : MemoryHistory} {q q' : HistoryQuery} {answer : List Run}

/-- The runs of a deployment in some states. -/
def wanted (h : MemoryHistory) (q : HistoryQuery) : List Run :=
  h.runs.filter fun r => r.deploymentId = q.deploymentId ∧ r.status ∈ q.statuses

/-- **The newest of the wanted runs**, as many as there is room for, each as often as it is kept. -/
structure Newest (h : MemoryHistory) (q : HistoryQuery) (answer : List Run) : Prop where
  /-- newest first, and by id where start times are the same -/
  sorted : answer.Pairwise RunTable.Before
  /-- as many as there is room for -/
  length_eq : answer.length = min q.limit.toNat (h.wanted q).length
  /-- they are among the wanted runs, and none of the others stands before any of them -/
  others : ∃ omitted, (answer ++ omitted).Perm (h.wanted q) ∧
    ∀ r ∈ answer, ∀ o ∈ omitted, ¬ o.NewerThan r

/-! ## One answer -/

theorem wanted_eq : h.wanted q = h.runs.filter q.admits :=
  List.filter_congr fun r _ => by
    simp only [HistoryQuery.admits, Bool.decide_and, List.contains_eq_mem]

/-- Only the wanted runs matter, in whatever order. -/
theorem Newest.congr (hlimit : q.limit = q'.limit) (hwanted : (h.wanted q).Perm (h'.wanted q'))
    (hnewest : Newest h q answer) : Newest h' q' answer := by
  obtain ⟨hsorted, hlength, omitted, hperm, hnone⟩ := hnewest
  refine ⟨hsorted, ?_, omitted, hperm.trans hwanted, hnone⟩
  rw [hlength, hlimit, hwanted.length_eq]

/-- **The answer** is such a list. -/
theorem newest_latest : Newest h q (h.latest q) := by
  have hperm : (h.admitted q).Perm (h.wanted q) := wanted_eq ▸ admitted_perm
  have hsorted : (h.admitted q).Pairwise RunTable.Before := admitted_pairwise
  have hcut : h.latest q ++ (h.admitted q).drop q.limit.toNat = h.admitted q := List.take_append_drop _ _
  generalize (h.admitted q).drop q.limit.toNat = omitted at hcut
  rw [← hcut, List.pairwise_append] at hsorted
  refine ⟨hsorted.1, ?_, omitted, hcut ▸ hperm, fun r hr o ho => (hsorted.2.2 r hr o ho).not_newerThan⟩
  rw [latest, List.length_take, hperm.length_eq]

/-- Where no two runs have the same id, there is **one such list**. -/
theorem Newest.eq_latest (hnodup : (h.runs.map Run.flowRunId).Nodup) (hnewest : Newest h q answer) :
    answer = h.latest q := by
  obtain ⟨hsorted, hlength, omitted, hperm, hnone⟩ := hnewest
  -- the others, in order, go on from the answer
  have hrest : (omitted.mergeSort newestFirst).Perm omitted := List.mergeSort_perm _ _
  have hrestSorted : (omitted.mergeSort newestFirst).Pairwise RunTable.Before :=
    (List.pairwise_mergeSort newestFirst_trans newestFirst_total _).imp newestFirst_iff_before.1
  have hwhole : (answer ++ omitted.mergeSort newestFirst).Pairwise RunTable.Before :=
    List.pairwise_append.2 ⟨hsorted, hrestSorted, fun r hr o ho =>
      .of_not_newerThan (hnone r hr o (hrest.mem_iff.1 ho))⟩
  refine (RunTable.selects_iff_latest (t := ⟨h.runs⟩) hnodup).1 ⟨_, ?_, hwhole, ?_⟩
  · have hasked : (h.runs.filter fun r => RunTable.Asked q r) = h.wanted q := by
      rw [wanted_eq]
      exact List.filter_congr fun r _ => by simp only [RunTable.asked_iff_admits, Bool.decide_eq_true]
    rw [hasked]
    exact (hrest.append_left answer).trans hperm
  · -- the cut falls between the two, or there are no others
    have hwanted := hperm.length_eq
    have hothers := hrest.length_eq
    rw [List.length_append] at hwanted
    have hnone : (omitted.mergeSort newestFirst).take (q.limit.toNat - answer.length) = [] := by
      rw [List.take_eq_nil_iff, ← List.length_eq_zero_iff]
      omega
    rw [List.take_append, hnone, List.append_nil, List.take_of_length_le (by omega)]

/-! ## For all queries -/

/-- A query may name its states in any order and repeatedly. -/
theorem latest_congr_statuses {statuses : List Status} (hstatuses : ∀ st, st ∈ statuses ↔ st ∈ q.statuses) :
    h.latest { q with statuses } = h.latest q := by
  have hadmits : ({ q with statuses } : HistoryQuery).admits = q.admits := by
    funext r
    simp only [HistoryQuery.admits, List.contains_eq_mem, hstatuses]
  rw [latest, latest, hadmits]

/-- **The answer is the newest of the wanted runs**, whatever is kept and whatever is queried. How the states
are listed does not matter; a smaller limit cuts the same answer earlier. Where no two runs have the same id,
there is no other such list, and the order in which the runs are kept does not matter. -/
theorem latest_newest (h : MemoryHistory) (q : HistoryQuery) :
    serve (.latest q) h = (.ok (h.latest q), h) ∧ Newest h q (h.latest q) ∧
      (∀ statuses, (∀ st, st ∈ statuses ↔ st ∈ q.statuses) →
        h.latest { q with statuses } = h.latest q) ∧
      (∀ limit ≤ q.limit, h.latest { q with limit } <+: h.latest q) ∧
      ((h.runs.map Run.flowRunId).Nodup →
        (∀ answer, Newest h q answer ↔ answer = h.latest q) ∧
        ∀ h' : MemoryHistory, h'.runs.Perm h.runs → h'.latest q = h.latest q) := by
  refine ⟨rfl, newest_latest, fun _ => latest_congr_statuses, fun limit hlimit => ?_, fun hnodup => ⟨?_, ?_⟩⟩
  · exact List.take_prefix_take_left (UInt32.le_iff_toNat_le.1 hlimit)
  · exact fun answer => ⟨Newest.eq_latest hnodup, fun heq => heq ▸ newest_latest⟩
  · intro h' hperm
    exact (newest_latest.congr rfl (hperm.filter _)).eq_latest hnodup

/-- Of three runs, two started at the same time. With room for two, the later one comes first, and of the
two the one with the greater id, in whatever order they are kept. -/
theorem latest_newest_tied :
    let run (id : String) (second : Int) : Run :=
      { (default : Run) with flowRunId := id, startTime := ⟨second, 0⟩, status := .completed }
    let q : HistoryQuery := ⟨"", [.completed, .failed, .completed], 2⟩
    let h : MemoryHistory := ⟨[run "a" 1, run "c" 2, run "b" 1]⟩
    let h' : MemoryHistory := ⟨[run "b" 1, run "a" 1, run "c" 2]⟩
    h.latest q = [run "c" 2, run "b" 1] ∧
      ((h.runs.map Run.flowRunId).Nodup ∧ h'.runs.Perm h.runs ∧ h'.latest q = h.latest q) ∧
      h.latest { q with statuses := [.failed, .completed] } = h.latest q ∧
      h.latest { q with limit := 1 } <+: h.latest q := by
  intro run q h h'
  have hnodup : (h.runs.map Run.flowRunId).Nodup := by decide +kernel
  have hperm : h'.runs.Perm h.runs := by decide +kernel
  obtain ⟨-, -, hstatuses, hlimit, hdistinct⟩ := latest_newest h q
  have hnewest : Newest h q [run "c" 2, run "b" 1] := by
    have hsorted : RunTable.Before (run "c" 2) (run "b" 1) := .inl (by decide)
    have hlater : ¬ (run "a" 1).NewerThan (run "c" 2) := RunTable.Before.not_newerThan (.inl (by decide))
    have htied : ¬ (run "a" 1).NewerThan (run "b" 1) :=
      RunTable.Before.not_newerThan (.inr ⟨rfl, by decide⟩)
    refine ⟨List.pairwise_pair.2 hsorted, by decide +kernel, [run "a" 1], by decide +kernel, ?_⟩
    simpa using ⟨hlater, htied⟩
  refine ⟨(((hdistinct hnodup).1 _).1 hnewest).symm, ⟨hnodup, hperm, (hdistinct hnodup).2 h' hperm⟩,
    hstatuses _ fun st => ?_, hlimit 1 (by decide)⟩
  cases st <;> decide

end MemoryHistory

end FlowRuns
