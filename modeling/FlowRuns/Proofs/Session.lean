import FlowRuns.Proofs.Dataflow.Saving
import FlowRuns.Proofs.Dataflow.Snapshot
import FlowRuns.Proofs.Stats.Computation
import FlowRuns.Proofs.Sync

/-!
# What a session leaves of the dataflows

In a session three kinds of steps write to the store of dataflows: a dataflow is put into it, a dataflow is
saved, or statistics over some runs are computed. Which steps have written is told from outside, by what
they gave. The store holds under each deployment id what was written last for it, and counts the writes that
were saves. A step that ends early, or that finds no runs, leaves the stores as they were.

* `Step.considered?` — the runs that a step is answered with.
* `Write`, `Step.write?`, `Stores.writes` — what a step, and a session, has written.
* `Step.Does`, `Step.does` — what a step does at all: nothing, or something elsewhere, or one write.
* `Step.dataflows_run`, `Step.stores_run_of_idle` — what it leaves of the dataflows, and of both stores.
* `Stores.after_writes` — **any session.**
-/

namespace FlowRuns

/-! ## Writes -/

/-- A write to the store of dataflows. -/
inductive Write where
  /-- a dataflow was put into the store -/
  | inserted (dataflow : Dataflow)
  /-- a dataflow was saved -/
  | saved (dataflow : Dataflow)
  /-- statistics were computed, and the dataflow was saved with them -/
  | computed (dataflow : Dataflow) (stats : RunTimeStats)

namespace Write

/-- The dataflow that was written. -/
def dataflow : Write → Dataflow
  | inserted d => d
  | saved d => d
  | computed d _ => d

/-- Whether the store counts the write. -/
def isSave : Write → Bool
  | inserted _ => false
  | _ => true

/-- What the write makes of a store. -/
def into (w : Write) (m : MemoryDataflows) : MemoryDataflows :=
  if w.isSave then m.save w.dataflow else m.insert w.dataflow

theorem get?_into (w : Write) (m : MemoryDataflows) (id : String) :
    (w.into m).get? id = if w.dataflow.deploymentId = id then some w.dataflow else m.get? id := by
  -- a dataflow is put into the store and saved in the same way, but for the count
  have hget : (w.into m).get? id = (m.save w.dataflow).get? id := by
    rw [into]
    split
    · rfl
    · rfl
  rw [hget, MemoryDataflows.get?_save]

theorem saves_into (w : Write) (m : MemoryDataflows) :
    (w.into m).saves = m.saves + [w].countP isSave := by
  cases w <;> rfl

end Write

/-- The runs that the history holds in answer to a step, if the step asks for runs. -/
def Step.considered? (s : Stores) : Step → Option (List Run)
  | query q => some (s.history.latest q)
  | compute id o => (s.dataflows.get? id).map fun d => s.history.latest (StatsService.queryOf d o)
  | computeOn d o => some (s.history.latest (StatsService.queryOf d o))
  | _ => none

/-- The write of a computation, as its result tells: statistics were given, and some runs considered. -/
def Write.ofComputation? (considered : Option (List Run)) : Except Failure StepValue → Option Write
  | .ok (.computed d stats) => if considered = some [] then none else some (.computed d stats)
  | _ => none

/-- What a step has written, as its result tells: a dataflow was put into the store, or saved without an
error, or statistics were computed. -/
def Step.write? (s : Stores) (step : Step) : Option Write :=
  let result := (step.run s).result
  match step with
  | insert d => result.toOption.map fun _ => .inserted d
  | save d => result.toOption.map fun _ => .saved d
  | _ => Write.ofComputation? (step.considered? s) result

/-- What a session has written, in order. -/
def Stores.writes (s : Stores) : List Step → List Write
  | [] => []
  | step :: steps => (step.write? s).toList ++ (step.run s).stores.writes steps

/-! ## One step -/

/-- What a step does. -/
inductive Step.Does (s : Stores) (step : Step) : Prop where
  /-- nothing: the stores are as they were -/
  | nothing (hstores : (step.run s).stores = s) (hwrite : step.write? s = none)
  /-- something to the history, or to the order in which the operations are -/
  | elsewhere (v : StepValue) (hresult : (step.run s).result = .ok v)
    (hdataflows : (step.run s).stores.dataflows = s.dataflows) (hwrite : step.write? s = none)
    (hconsidered : step.considered? s = none)
  /-- one write to the store of dataflows -/
  | writes (w : Write) (v : StepValue) (hresult : (step.run s).result = .ok v)
    (hstores : (step.run s).stores = { s with dataflows := w.into s.dataflows })
    (hwrite : step.write? s = some w) (hconsidered : step.considered? s ≠ some [])
    (hsnapshot : ∀ d stats, w = .computed d stats → d.runTimeStats? = some stats)

namespace Step

variable {s : Stores} {d : Dataflow} {o : StatsOptions} {step : Step}

/-- A step that ends early and leaves the stores does nothing. -/
theorem Does.of_error {f : Failure} (hresult : (step.run s).result = .error f)
    (hstores : (step.run s).stores = s) : step.Does s := by
  refine .nothing hstores ?_
  -- an error is no write, of whatever kind the step is
  unfold write?
  rw [hresult]
  cases step <;> rfl

/-- What a computation does is told by its result and the stores that it leaves. -/
theorem Does.of_ends {out : Program.Outcome Stores (Except Failure RunTimeStats × Dataflow)}
    (hends : StatsService.Ends s d o out)
    (hresult : (step.run s).result = out.result.1.map (.computed out.result.2))
    (hstores : (step.run s).stores = out.state)
    (hconsidered : step.considered? s = some (s.history.latest (StatsService.queryOf d o)))
    (hwrite : step.write? s = Write.ofComputation? (step.considered? s) (step.run s).result) :
    step.Does s := by
  rw [hresult, hconsidered] at hwrite
  cases hends with
  | early f events => exact .of_error hresult hstores
  | noRuns events hruns =>
    rw [hruns] at hwrite
    exact .nothing hstores hwrite
  | saved stats events hruns hstats =>
    have hsome : some (s.history.latest (StatsService.queryOf d o)) ≠ some [] :=
      fun h => hruns (Option.some.inj h)
    refine .writes (.computed (d.withRunTimeStats stats) stats) _ hresult hstores
      (hwrite.trans (if_neg hsome)) (hconsidered ▸ hsome) fun d' stats' heq => ?_
    obtain ⟨rfl, rfl⟩ := Write.computed.inj heq
    exact Dataflow.runTimeStats?_withRunTimeStats d stats

theorem does_computeOn (s : Stores) (d : Dataflow) (o : StatsOptions) : (computeOn d o).Does s :=
  .of_ends (StatsService.ends_computeInPlace s d o) rfl rfl rfl rfl

theorem does_compute (s : Stores) (id : String) (o : StatsOptions) : (compute id o).Does s := by
  obtain ⟨f, hrun⟩ | ⟨d, hfound, hrun⟩ := StatsService.run_computeFor s id o
  · refine .of_error (f := f) ?_ ?_
    · exact congrArg (fun out => out.result.map fun r => StepValue.computed r.1 r.2) hrun
    · exact congrArg (·.state) hrun
  · refine .of_ends (StatsService.ends_computeInPlace s d o) ?_ ?_ ?_ rfl
    · refine (congrArg (fun out => out.result.map fun r => StepValue.computed r.1 r.2) hrun).trans ?_
      cases (((StatsService.computeInPlace o).program d).run Stores.serve s).result.1 with
      | error f => rfl
      | ok stats => rfl
    · exact congrArg (·.state) hrun
    · rw [considered?, hfound, Option.map_some]

/-- A sync leaves the dataflows alone, and all else too if it ends early. -/
theorem does_sync (s : Stores) (id : String) (limit : Option UInt32)
    (answer : Except FlowError (List Run)) : (sync id limit answer).Does s := by
  obtain ⟨f, asked, hrun⟩ | ⟨runs, events, asked, -, hrun⟩ := run_syncDeployment s id limit answer
  · refine .of_error (f := f) ?_ ?_
    · exact congrArg (fun out => out.result.map StepValue.count) hrun
    · exact congrArg (·.state.1) hrun
  · have hresult : ((sync id limit answer).run s).result =
        .ok (.count (MemoryHistory.batchSize runs)) :=
      congrArg (fun out => out.result.map StepValue.count) hrun
    refine .elsewhere _ hresult ?_ ?_ rfl
    · exact congrArg (·.state.1.dataflows) hrun
    · unfold write?
      rw [hresult]
      rfl

/-- A request to a store that fails does nothing. -/
theorem Does.of_refused {α : Type} {value : α → StepValue} {answer : Except FlowError α × Stores}
    {e : FlowError} (hanswer : answer = (.error e, s)) (hrun : step.run s = .ofAnswer value answer) :
    step.Does s := by
  subst hanswer
  refine .of_error (f := .error e) ?_ ?_
  · rw [hrun]
    rfl
  · rw [hrun]
    rfl

/-- A request to a store that does not fail gives what the store answers. -/
theorem run_of_answered (step : Step) {α : Type} {value : α → StepValue}
    {answer : Except FlowError α × Stores} {a : α} {s' : Stores} (hanswer : answer = (.ok a, s'))
    (hrun : step.run s = .ofAnswer value answer) :
    (step.run s).result = .ok (value a) ∧ (step.run s).stores = s' := by
  rw [hrun, hanswer]
  exact ⟨rfl, rfl⟩

theorem does_record (s : Stores) (runs : List Run) : (record runs).Does s := by
  cases hfault : s.fault .recordRuns with
  | some e => exact .of_refused (Stores.serveHistory_record_of_fault hfault) rfl
  | none =>
    obtain ⟨hresult, hstores⟩ := run_of_answered (record runs) (Stores.serveHistory_record hfault) rfl
    refine .elsewhere _ hresult ?_ ?_ rfl
    · rw [hstores]
    · unfold write?
      rw [hresult]
      rfl

theorem does_query (s : Stores) (q : HistoryQuery) : (query q).Does s := by
  cases hfault : s.fault .queryRuns with
  | some e => exact .of_refused (Stores.serve_latest_of_fault hfault) rfl
  | none =>
    obtain ⟨hresult, hstores⟩ := run_of_answered (query q) (Stores.serve_latest hfault) rfl
    refine .nothing hstores ?_
    unfold write?
    rw [hresult]
    rfl

theorem does_save (s : Stores) (d : Dataflow) : (save d).Does s := by
  cases hfault : s.fault .saveDataflow with
  | some e => exact .of_refused (Stores.serve_save_of_fault hfault) rfl
  | none =>
    obtain ⟨hresult, hstores⟩ := run_of_answered (save d) (Stores.serve_save hfault) rfl
    refine .writes (.saved d) _ hresult hstores ?_ nofun nofun
    unfold write?
    rw [hresult]
    rfl

theorem does_find (s : Stores) (id : String) : (find id).Does s := by
  cases hfault : s.fault .findDataflow with
  | some e => exact .of_refused (Stores.serve_find_of_fault hfault) rfl
  | none =>
    obtain ⟨hresult, hstores⟩ := run_of_answered (find id) (Stores.serve_find hfault) rfl
    refine .nothing hstores ?_
    unfold write?
    rw [hresult]
    rfl

/-- **One step** does nothing, or something elsewhere, or makes one write. -/
theorem does (s : Stores) (step : Step) : step.Does s := by
  cases step with
  | record runs => exact does_record s runs
  | query q => exact does_query s q
  | insert d => exact .writes (.inserted d) .nothing rfl rfl rfl nofun nofun
  | save d => exact does_save s d
  | get id => exact .nothing rfl rfl
  | find id => exact does_find s id
  | setFault op e => exact .elsewhere .nothing rfl rfl rfl rfl
  | compute id o => exact does_compute s id o
  | computeOn d o => exact does_computeOn s d o
  | sync id limit answer => exact does_sync s id limit answer

/-- What a step leaves of the dataflows, its write tells. -/
theorem dataflows_run (s : Stores) (step : Step) :
    (step.run s).stores.dataflows =
      (step.write? s).toList.foldl (fun m w => w.into m) s.dataflows := by
  cases does s step with
  | nothing hstores hwrite =>
    rw [hstores, hwrite]
    rfl
  | elsewhere v hresult hdataflows hwrite hconsidered =>
    rw [hdataflows, hwrite]
    rfl
  | writes w v hresult hstores hwrite hconsidered hsnapshot =>
    rw [hstores, hwrite]
    rfl

/-- A step that ends early, or that is answered without runs, leaves the stores. -/
theorem stores_run_of_idle (h : (∃ f, (step.run s).result = .error f) ∨ step.considered? s = some []) :
    (step.run s).stores = s := by
  cases does s step with
  | nothing hstores hwrite => exact hstores
  | elsewhere v hresult hdataflows hwrite hconsidered =>
    obtain ⟨f, herror⟩ | hnone := h
    · cases hresult.symm.trans herror
    · cases hconsidered.symm.trans hnone
  | writes w v hresult hstores hwrite hconsidered hsnapshot =>
    obtain ⟨f, herror⟩ | hnone := h
    · cases hresult.symm.trans herror
    · exact absurd hnone hconsidered

/-- Statistics that are written are found beside the dataflow that is written. -/
theorem runTimeStats?_of_write {stats : RunTimeStats} (h : step.write? s = some (.computed d stats)) :
    d.runTimeStats? = some stats := by
  cases does s step with
  | nothing hstores hwrite => cases hwrite.symm.trans h
  | elsewhere v hresult hdataflows hwrite hconsidered => cases hwrite.symm.trans h
  | writes w v hresult hstores hwrite hconsidered hsnapshot =>
    exact hsnapshot d stats (Option.some.inj (hwrite.symm.trans h))

end Step

/-! ## Any session -/

namespace Write

/-- Under each deployment id stands what was written last for it. -/
theorem get?_foldl_into (ws : List Write) (m : MemoryDataflows) (id : String) :
    (ws.foldl (fun m w => w.into m) m).get? id =
      (Rows.last Dataflow.deploymentId id (ws.map dataflow)).or (m.get? id) := by
  induction ws using List.reverseRecOn with
  | nil => rfl
  | append_singleton ws w ih =>
    rw [List.foldl_append, List.foldl_cons, List.foldl_nil, get?_into, ih, List.map_append,
      List.map_singleton, Rows.last_concat]
    split
    · rfl
    · rfl

theorem saves_foldl_into (ws : List Write) (m : MemoryDataflows) :
    (ws.foldl (fun m w => w.into m) m).saves = m.saves + ws.countP isSave := by
  induction ws using List.reverseRecOn with
  | nil => rfl
  | append_singleton ws w ih =>
    rw [List.foldl_append, List.foldl_cons, List.foldl_nil, saves_into, ih, List.countP_append,
      Nat.add_assoc]

end Write

namespace Stores

theorem dataflows_after (s : Stores) (steps : List Step) :
    (s.after steps).dataflows = (s.writes steps).foldl (fun m w => w.into m) s.dataflows := by
  induction steps generalizing s with
  | nil => rfl
  | cons step steps ih =>
    rw [writes, List.foldl_append, ← Step.dataflows_run]
    exact ih _

theorem runTimeStats?_of_mem_writes {s : Stores} {steps : List Step} {d : Dataflow}
    {stats : RunTimeStats} (h : .computed d stats ∈ s.writes steps) : d.runTimeStats? = some stats := by
  induction steps generalizing s with
  | nil => cases h
  | cons step steps ih =>
    obtain hstep | hrest := List.mem_append.1 h
    · exact Step.runTimeStats?_of_write (Option.mem_toList.1 hstep)
    · exact ih hrest

/-- **Any session**, whichever operations are out of order in between. Under each deployment id stands the
dataflow that was written last for it, and beside it, if that was done by a computation, the statistics that
this computation gave. The writes that are no insertions are counted as saves. And every step that ended
early, or was answered without runs, left the stores as it found them. -/
theorem after_writes (s : Stores) (steps : List Step) :
    (∀ id, (s.after steps).dataflows.get? id =
      (Rows.last Dataflow.deploymentId id ((s.writes steps).map Write.dataflow)).or
        (s.dataflows.get? id)) ∧
    (∀ d stats, .computed d stats ∈ s.writes steps → d.runTimeStats? = some stats) ∧
    (s.after steps).dataflows.saves = s.dataflows.saves + (s.writes steps).countP Write.isSave ∧
    ∀ before step rest, steps = before ++ step :: rest →
      (∃ f, (step.run (s.after before)).result = .error f) ∨
        step.considered? (s.after before) = some [] →
      (step.run (s.after before)).stores = s.after before := by
  refine ⟨fun id => ?_, fun d stats h => runTimeStats?_of_mem_writes h, ?_, ?_⟩
  · rw [dataflows_after, Write.get?_foldl_into]
  · rw [dataflows_after, Write.saves_foldl_into]
  · intro before step rest _ hidle
    exact Step.stores_run_of_idle hidle

/-- A dataflow is put into the store, statistics over one run are computed for it, and then nothing can be
saved any more. The statistics stay, they are the one save that is counted, and what is saved later is
refused. -/
theorem after_writes_outOfOrder :
    let run : Run := { (default : Run) with
      deploymentId := "dep", flowRunId := "a", totalRunTime := .zero, status := .completed }
    let d : Dataflow := { (default : Dataflow) with deploymentId := "dep" }
    let steps : List Step := [.insert d, .record [run], .compute "dep" default,
      .setFault .saveDataflow (some (.database .lost)), .save d]
    ∃ stored stats, .computed stored stats ∈ (default : Stores).writes steps ∧
      stored.runTimeStats? = some stats ∧
      ((default : Stores).after steps).dataflows.saves = 1 ∧
      (default : Stores).after steps = (default : Stores).after (steps.take 4) := by
  intro run d steps
  obtain ⟨-, hsnapshot, hsaves, hidle⟩ := after_writes default steps
  have hcomputed : ((default : Stores).writes steps).any
      (fun | .computed .. => true | _ => false) = true := by decide +kernel
  obtain ⟨w, hmem, hw⟩ := List.any_eq_true.1 hcomputed
  cases w with
  | inserted stored => cases hw
  | saved stored => cases hw
  | computed stored stats =>
    refine ⟨stored, stats, hmem, hsnapshot stored stats hmem, ?_, ?_⟩
    · have hcount : ((default : Stores).writes steps).countP Write.isSave = 1 := by decide +kernel
      rw [hsaves, hcount]
      rfl
    · exact hidle (steps.take 4) (.save d) [] rfl (.inl ⟨.error (.database .lost), rfl⟩)

end Stores

end FlowRuns
