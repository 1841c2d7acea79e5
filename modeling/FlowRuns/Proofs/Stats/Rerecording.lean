import FlowRuns.Stats.Service
import FlowRuns.Proofs.History.SameRuns
import FlowRuns.Proofs.Program

/-!
# Statistics and the way runs were recorded

A history in memory is asked for the latest runs of a deployment. Two histories that keep the same run under
each id answer alike, so nothing that a program over the two collaborators of the statistics service does
can tell them apart: neither its result, nor what it reports, nor what it asks the store of dataflows for.

* `StatsService.Beside` — histories with the same runs, beside the same store.
* `StatsService.run_of_sameRuns` — any program over a history and a store.
* `StatsService.computeInPlace_rerecorded` — **the statistics after batches that leave the same runs.**
-/

namespace FlowRuns

namespace StatsService

variable {σ : Type}

/-- A history in memory and any store of dataflows, as the collaborators of the service. -/
abbrev serveMemory (store : (r : dataflowPeer.Request) → σ → dataflowPeer.Answer r × σ) :
    (r : storesPeer.Request) → MemoryHistory × σ → storesPeer.Answer r × (MemoryHistory × σ) :=
  Program.serveBoth (P := historyPeer) MemoryHistory.serve store

/-- Two histories have the same runs, the store beside them is in the same state, and both have been asked
the same. -/
structure Beside (a b : (MemoryHistory × σ) × List storesPeer.Request) : Prop where
  /-- the histories -/
  history : a.1.1.SameRuns b.1.1
  /-- the store -/
  store : a.1.2 = b.1.2
  /-- the requests -/
  asked : a.2 = b.2

/-- One request is answered alike. -/
theorem Beside.recording (store : (r : dataflowPeer.Request) → σ → dataflowPeer.Answer r × σ)
    (r : storesPeer.Request) (a b : (MemoryHistory × σ) × List storesPeer.Request) (h : Beside a b) :
    (Program.recording (serveMemory store) r a).1 = (Program.recording (serveMemory store) r b).1 ∧
      Beside (Program.recording (serveMemory store) r a).2
        (Program.recording (serveMemory store) r b).2 := by
  obtain ⟨⟨ha, w⟩, asked⟩ := a
  obtain ⟨⟨hb, w'⟩, asked'⟩ := b
  obtain ⟨hsame, rfl, rfl⟩ := h
  rcases r with (q | runs) | r
  · exact ⟨congrArg Except.ok (hsame.latest_eq q), hsame, rfl, rfl⟩
  · exact ⟨rfl, hsame.record runs, rfl, rfl⟩
  · exact ⟨rfl, hsame, rfl, rfl⟩

/-- **Any program** over a history and a store leaves the same of two histories with the same runs. -/
theorem run_of_sameRuns {α : Type}
    (store : (r : dataflowPeer.Request) → σ → dataflowPeer.Answer r × σ) (m : Program storesPeer α)
    {h h' : MemoryHistory} (hsame : h.SameRuns h') (w : σ) :
    let against (h : MemoryHistory) := m.run (Program.recording (serveMemory store)) ((h, w), [])
    (against h).result = (against h').result ∧ (against h).events = (against h').events ∧
      Beside (against h).state (against h').state :=
  Program.run_of_alike (Beside.recording store) m ⟨hsame, rfl, rfl⟩

/-- **The way in which runs were recorded does not show in statistics.** Two sequences of batches that
leave the same last version of each run — in any order, in any batches, by way of any other versions — lead
to the same result and the same dataflow in hand, the same events, the same requests, so that the same
dataflow is saved if one is, and the same state of the store, whatever that store does. -/
theorem computeInPlace_rerecorded (store : (r : dataflowPeer.Request) → σ → dataflowPeer.Answer r × σ)
    (w : σ) (d : Dataflow) (o : StatsOptions) (batches batches' : List (List Run))
    (hlast : ∀ id, Rows.last Run.flowRunId id batches.flatten =
      Rows.last Run.flowRunId id batches'.flatten) :
    let after (batches : List (List Run)) := Program.run (Program.recording (serveMemory store))
      ((computeInPlace o).program d) ((batches.foldl MemoryHistory.record .empty, w), [])
    (after batches).result = (after batches').result ∧
      (after batches).events = (after batches').events ∧
      (after batches).state.2 = (after batches').state.2 ∧
      (after batches).state.1.2 = (after batches').state.1.2 := by
  intro after
  obtain ⟨hresult, hevents, hstate⟩ := run_of_sameRuns store ((computeInPlace o).program d)
    ((MemoryHistory.sameRuns_iff_last batches batches').2 hlast) w
  exact ⟨hresult, hevents, hstate.asked, hstate.store⟩

/-- Two runs that started at the same time, and only one is considered: the same one, whether they were
recorded one by one, or the other way round by way of an earlier version. -/
theorem computeInPlace_rerecorded_tied :
    let slow : Run := { (default : Run) with
      deploymentId := "dep", flowRunId := "a", totalRunTime := .infinite false, status := .completed }
    let fast : Run := { slow with flowRunId := "b", totalRunTime := .zero }
    let running : Run := { fast with flowRunId := "a", status := .running }
    let d : Dataflow := { (default : Dataflow) with deploymentId := "dep" }
    let after (batches : List (List Run)) :=
      Program.run (Program.recording (serveMemory MemoryDataflows.serve))
        ((computeInPlace ⟨1, [.completed]⟩).program d)
        ((batches.foldl MemoryHistory.record .empty, .empty), [])
    (∀ id, Rows.last Run.flowRunId id [slow, fast] = Rows.last Run.flowRunId id [running, fast, slow]) ∧
      (after [[slow], [fast]]).result = (after [[running, fast], [slow]]).result ∧
      (after [[slow], [fast]]).state.2 = (after [[running, fast], [slow]]).state.2 := by
  intro slow fast running d after
  have hlast : ∀ id, Rows.last Run.flowRunId id [slow, fast] =
      Rows.last Run.flowRunId id [running, fast, slow] := by
    intro id
    rcases eq_or_ne id "a" with rfl | ha
    · rfl
    · rcases eq_or_ne id "b" with rfl | hb
      · rfl
      · have hnone : id ∉ [slow, fast].map Run.flowRunId := by simp [slow, fast, ha, hb]
        have hnone' : id ∉ [running, fast, slow].map Run.flowRunId := by
          simp [slow, fast, running, ha, hb]
        rw [Rows.last_eq_none_iff.2 hnone, Rows.last_eq_none_iff.2 hnone']
  obtain ⟨hresult, -, hasked, -⟩ := computeInPlace_rerecorded MemoryDataflows.serve .empty d
    ⟨1, [.completed]⟩ [[slow], [fast]] [[running, fast], [slow]] hlast
  exact ⟨hlast, hresult, hasked⟩

end StatsService

end FlowRuns
