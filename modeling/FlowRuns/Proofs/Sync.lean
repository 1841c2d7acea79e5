import FlowRuns.Proofs.Boundary
import FlowRuns.Proofs.Stores

/-!
# Copying flow runs, step by step

A sync asks its source once, and then at most once the history to record what the source gave.

* `syncing` — what follows the answer of the source.
* `run_syncDeployment_of_named` — the sync as a tree.
* `run_syncing_of_refused`, `run_syncing_of_recorded` — the rest, by the answer of the history.
* `run_syncDeployment` — **a sync** with a source that gives one answer, against stores in memory.
-/

namespace FlowRuns

/-- What follows the answer of the source. -/
def syncing (id : String) (answer : Except FlowError (List Run)) :
    Program syncPeer (Except Failure UInt64) :=
  match answer with
  | .error e => .done (.error (.error e))
  | .ok runs => .ask (.inr (.record runs)) fun (recorded : Except FlowError UInt64) =>
    match recorded with
    | .error e => .done (.error (.error e))
    | .ok n => .report (.runsSynced id runs.length n) (.done (.ok n))

/-- **The sync as a tree**: the source is asked once, and its answer decides on the rest. -/
theorem run_syncDeployment_of_named {id : String} (limit : Option UInt32)
    (h : Text.isBlank id = false) :
    (syncDeployment id limit).run = .ask (.inl ⟨id, limit⟩) (syncing id) := by
  unfold syncDeployment Validation.deploymentId
  rw [Validation.identifier_of_named h, Fallible.run_ofExcept_ok_bind, Program.runExcept_bind]
  refine congrArg (Program.ask _) (funext fun (answer : Except FlowError (List Run)) => ?_)
  cases answer with
  | error e => rfl
  | ok runs =>
    refine congrArg (Program.ask _) (funext fun (recorded : Except FlowError UInt64) => ?_)
    cases recorded with
    | error e => rfl
    | ok n => rfl

section

variable {σ : Type} {serve : (r : syncPeer.Request) → σ → syncPeer.Answer r × σ} {id : String}
  {runs : List Run} {s s' : σ}

/-- Runs that the history does not record. -/
theorem run_syncing_of_refused {e : FlowError}
    (h : serve (.inr (.record runs)) s = (Except.error e, s')) :
    Program.run serve (syncing id (.ok runs)) s = ⟨.error (.error e), [], s'⟩ :=
  Program.run_ask_of_answer (P := syncPeer) h

/-- Runs that the history records. -/
theorem run_syncing_of_recorded {n : UInt64}
    (h : serve (.inr (.record runs)) s = (Except.ok n, s')) :
    Program.run serve (syncing id (.ok runs)) s =
      ⟨.ok n, [.runsSynced id runs.length n], s'⟩ :=
  Program.run_ask_of_answer (P := syncPeer) h

end

/-! ## A sync with stores in memory -/

/-- A sync ends early and leaves the stores, or records what the source has answered. -/
theorem run_syncDeployment (s : Stores) (id : String) (limit : Option UInt32)
    (answer : Except FlowError (List Run)) :
    let run := (syncDeployment id limit).run.run (Program.recording (Stores.serveSync answer)) (s, [])
    (∃ f asked, run = ⟨.error f, [], (s, asked)⟩) ∨
      ∃ runs events asked, answer = .ok runs ∧ run = ⟨.ok (MemoryHistory.batchSize runs), events,
        ({ s with history := s.history.record runs }, asked)⟩ := by
  intro run
  cases hid : Text.isBlank id with
  | true =>
    exact .inl ⟨_, _, congrArg (Program.run _ · (s, [])) (EntryCall.run_sync_of_blank limit hid)⟩
  | false =>
    have hrun : run = Program.run (Program.recording (Stores.serveSync answer)) (syncing id answer)
        (s, [.inl ⟨id, limit⟩]) :=
      congrArg (Program.run _ · (s, [])) (run_syncDeployment_of_named limit hid)
    cases answer with
    | error e => exact .inl ⟨_, _, hrun⟩
    | ok runs =>
      cases hfault : s.fault .recordRuns with
      | some e =>
        have hserve : Program.recording (Stores.serveSync (.ok runs)) (.inr (.record runs))
            (s, [.inl ⟨id, limit⟩]) =
              (Except.error e, s, [.inl ⟨id, limit⟩, .inr (.record runs)]) := by
          simp only [Program.recording, Stores.serveSync, Stores.serveHistory_record_of_fault hfault]
          rfl
        exact .inl ⟨_, _, hrun.trans (run_syncing_of_refused hserve)⟩
      | none =>
        have hserve : Program.recording (Stores.serveSync (.ok runs)) (.inr (.record runs))
            (s, [.inl ⟨id, limit⟩]) =
              (Except.ok (MemoryHistory.batchSize runs), { s with history := s.history.record runs },
                [.inl ⟨id, limit⟩, .inr (.record runs)]) := by
          simp only [Program.recording, Stores.serveSync, Stores.serveHistory_record hfault]
          rfl
        exact .inr ⟨_, _, _, rfl, hrun.trans (run_syncing_of_recorded hserve)⟩

end FlowRuns
