import FlowRuns.Proofs.History.Recording
import FlowRuns.Proofs.Session

/-!
# What a session leaves of the history

Two kinds of steps write to the history: runs are recorded, or copied from a source. Which of them have is
told by what they gave, as it is for the store of dataflows.

* `Step.recorded`, `Stores.recorded` — the runs that a step, and a session, has recorded.
* `Step.history_run`, `Stores.history_after` — **what a step, and a session, leaves of the history.**
-/

namespace FlowRuns

/-- The runs that a step comes with, to be recorded. -/
def Step.offered : Step → List Run
  | record runs => runs
  | sync _ _ (.ok runs) => runs
  | _ => []

/-- The runs that a step has recorded, as its result tells. -/
def Step.recorded (s : Stores) (step : Step) : List Run :=
  if (step.run s).result.isOk then step.offered else []

/-- What a session has recorded, in order. -/
def Stores.recorded (s : Stores) : List Step → List Run
  | [] => []
  | step :: steps => step.recorded s ++ (step.run s).stores.recorded steps

/-- A computation leaves the history. -/
theorem StatsService.Ends.history_eq {s : Stores} {d : Dataflow} {o : StatsOptions}
    {out : Program.Outcome Stores (Except Failure RunTimeStats × Dataflow)} (h : Ends s d o out) :
    out.state.history = s.history := by
  cases h <;> rfl

theorem Stores.history_serve_latest (s : Stores) (q : HistoryQuery) :
    (s.serveHistory (.latest q)).2.history = s.history := by
  simp only [serveHistory]
  split <;> rfl

theorem Stores.history_serveDataflows (s : Stores) (r : DataflowRequest) :
    (s.serveDataflows r).2.history = s.history := by
  cases r <;> simp only [serveDataflows] <;> split <;> rfl

namespace Step

variable {s : Stores} {d : Dataflow} {o : StatsOptions} {step : Step} {v : StepValue}

theorem history_run_compute (s : Stores) (id : String) (o : StatsOptions) :
    ((compute id o).run s).stores.history = s.history := by
  obtain ⟨f, hrun⟩ | ⟨d, -, hrun⟩ := StatsService.run_computeFor s id o
  · exact congrArg (·.state.history) hrun
  · exact (congrArg (·.state.history) hrun).trans (StatsService.ends_computeInPlace s d o).history_eq

theorem history_run_record {runs : List Run} (h : ((record runs).run s).result = .ok v) :
    ((record runs).run s).stores.history = s.history.record runs := by
  cases hfault : s.fault .recordRuns with
  | some e =>
    have hserved : s.serveHistory (.record runs) = _ := Stores.serveHistory_record_of_fault hfault
    have hrun := congrArg (StepOutcome.ofAnswer .count) hserved
    cases (congrArg (·.result) hrun).symm.trans h
  | none =>
    have hserved : s.serveHistory (.record runs) = _ := Stores.serveHistory_record hfault
    exact congrArg (fun answer : Except FlowError UInt64 × Stores => answer.2.history) hserved

theorem history_run_sync {id : String} {limit : Option UInt32} {answer : Except FlowError (List Run)}
    (h : ((sync id limit answer).run s).result = .ok v) :
    ((sync id limit answer).run s).stores.history =
      s.history.record (sync id limit answer).offered := by
  obtain ⟨f, asked, hrun⟩ | ⟨runs, events, asked, rfl, hrun⟩ := run_syncDeployment s id limit answer
  · cases (congrArg (fun out => out.result.map StepValue.count) hrun).symm.trans h
  · exact congrArg (·.state.1.history) hrun

/-- What a step leaves of the history, its result tells. -/
theorem history_run (s : Stores) (step : Step) :
    (step.run s).stores.history = s.history.record (step.recorded s) := by
  unfold recorded
  cases hresult : (step.run s).result with
  | error f => exact congrArg Stores.history (stores_run_of_idle (.inl ⟨f, hresult⟩))
  | ok v =>
    cases step with
    | record runs => exact history_run_record hresult
    | query q => exact s.history_serve_latest q
    | insert d => rfl
    | save d => exact s.history_serveDataflows (.save d)
    | get id => rfl
    | find id => exact s.history_serveDataflows (.find id)
    | setFault op e => rfl
    | compute id o => exact history_run_compute s id o
    | computeOn d o => exact (StatsService.ends_computeInPlace s d o).history_eq
    | sync id limit answer => exact history_run_sync hresult

end Step

/-- What a session leaves of the history. -/
theorem Stores.history_after (s : Stores) (steps : List Step) :
    (s.after steps).history = s.history.record (s.recorded steps) := by
  induction steps generalizing s with
  | nil => rfl
  | cons step steps ih =>
    rw [recorded, MemoryHistory.record_append, ← Step.history_run]
    exact ih _

end FlowRuns
