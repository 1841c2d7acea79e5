import FlowRuns.Proofs.History.Foreign
import FlowRuns.Proofs.Session.Recorded
import FlowRuns.Proofs.Stats.Snapshot

/-!
# Deployments do not disturb each other

All deployments share one list of runs and one store of dataflows. A computation that has succeeded settles
its deployment: the dataflow stands in the store with the statistics of the latest runs, and computing once
more would give just these. No step that is for others changes that, and neither does the same computation
when it comes again.

* `Step.target?`, `Step.target?_of_write` — whom a step is for, and that it writes for nobody else.
* `Settled` — the dataflow has the statistics that a computation would give it.
* `Stores.settled_of_compute`, `Settled.run`, `Settled.after` — a computation settles its deployment, and it
  stays settled, step by step.
* `Settled.compute` — computing once more.
* `Stores.compute_isolated` — **any steps that are for others.**
-/

namespace FlowRuns

/-! ## What steps write, and for whom -/

/-- The deployment that a step is for, if it is an insertion, a save or a computation. -/
def Step.target? : Step → Option String
  | insert d => some d.deploymentId
  | save d => some d.deploymentId
  | compute id _ => some id
  | computeOn d _ => some d.deploymentId
  | _ => none

/-- Each dataflow stands under its own deployment id. -/
def MemoryDataflows.Keyed (m : MemoryDataflows) : Prop :=
  ∀ id d, m.get? id = some d → d.deploymentId = id

namespace Write

variable {w : Write} {m : MemoryDataflows} {considered : Option (List Run)}
  {result : Except Failure StepValue}

theorem keyed_into (h : m.Keyed) (w : Write) : (w.into m).Keyed := fun id d hfound => by
  rw [get?_into] at hfound
  split at hfound
  next hid => exact Option.some.inj hfound ▸ hid
  next => exact h id d hfound

/-- The write of a computation is what its result gives. -/
theorem of_ofComputation? (h : ofComputation? considered result = some w) :
    ∃ d stats, result = .ok (.computed d stats) ∧ w = .computed d stats := by
  unfold ofComputation? at h
  split at h
  · split at h
    · cases h
    · cases h
      exact ⟨_, _, rfl, rfl⟩
  · cases h

end Write

namespace Step

variable {s : Stores} {step : Step} {w : Write} {id : String} {d : Dataflow} {o : StatsOptions}

/-- An answer that is no statistics is no write. -/
theorem ofComputation?_of_answer {α : Type} {value : α → StepValue} {r : Except FlowError α × Stores}
    {considered : Option (List Run)} (hvalue : ∀ a d stats, value a ≠ .computed d stats) :
    Write.ofComputation? considered (StepOutcome.ofAnswer value r).result = none := by
  refine Option.eq_none_iff_forall_ne_some.2 fun w hw => ?_
  obtain ⟨d, stats, hresult, -⟩ := Write.of_ofComputation? hw
  rcases r with ⟨e | a, s'⟩
  · cases hresult
  · exact hvalue a d stats (Except.ok.inj hresult)

/-- A step that is for no deployment writes no dataflow. -/
theorem write?_of_target?_eq_none (h : step.target? = none) : step.write? s = none := by
  cases step with
  | record runs => exact ofComputation?_of_answer (r := s.serveHistory (.record runs)) nofun
  | query q => exact ofComputation?_of_answer (r := s.serveHistory (.latest q)) nofun
  | find id => exact ofComputation?_of_answer (r := s.serveDataflows (.find id)) nofun
  | get id => rfl
  | setFault op e => rfl
  | sync id limit answer =>
    refine Option.eq_none_iff_forall_ne_some.2 fun w hw => ?_
    obtain ⟨d, stats, hresult, -⟩ := Write.of_ofComputation? hw
    obtain ⟨f, asked, hrun⟩ | ⟨runs, events, asked, -, hrun⟩ := run_syncDeployment s id limit answer
    · cases (congrArg (fun out => out.result.map StepValue.count) hrun).symm.trans hresult
    · cases (congrArg (fun out => out.result.map StepValue.count) hrun).symm.trans hresult
  | insert d => cases h
  | save d => cases h
  | compute id o => cases h
  | computeOn d o => cases h

/-- A step that succeeds gives the value of what its program gives. -/
theorem exists_of_map_eq_ok {α : Type} {value : α → StepValue} {r : Except Failure α} {v : StepValue}
    (h : r.map value = .ok v) : ∃ a, r = .ok a ∧ v = value a := by
  cases r with
  | error f => cases h
  | ok a => exact ⟨a, rfl, (Except.ok.inj h).symm⟩

theorem of_run_compute_ok {v : StepValue} (h : ((compute id o).run s).result = .ok v) :
    ∃ d stats, ((StatsService.computeFor id o).run.run Stores.serve s).result = .ok (d, stats) ∧
      v = .computed d stats := by
  obtain ⟨⟨d, stats⟩, hresult, hv⟩ := exists_of_map_eq_ok
    (r := ((StatsService.computeFor id o).run.run Stores.serve s).result) h
  exact ⟨d, stats, hresult, hv⟩

theorem of_run_computeOn_ok {v : StepValue} (h : ((computeOn d o).run s).result = .ok v) :
    ∃ d' stats, (((StatsService.computeInPlace o).program d).run Stores.serve s).result = (.ok stats, d') ∧
      v = .computed d' stats := by
  obtain ⟨stats, hresult, hv⟩ := exists_of_map_eq_ok
    (r := (((StatsService.computeInPlace o).program d).run Stores.serve s).result.1) h
  exact ⟨_, stats, Prod.ext hresult rfl, hv⟩

/-- What a computation for a deployment writes is a snapshot for the dataflow stored for it. -/
theorem of_write?_compute (h : (compute id o).write? s = some w) :
    ∃ d d' stats, s.dataflows.get? id = some d ∧ w = .computed d' stats ∧ StatsService.snapshot? d
      (s.history.latest (StatsService.queryOf d o)) = some (d', stats) := by
  obtain ⟨_, _, hwritten, rfl⟩ := Write.of_ofComputation? h
  obtain ⟨d', stats, hresult, hv⟩ := of_run_compute_ok hwritten
  obtain ⟨d, -, hfound, -, -, hsnapshot⟩ := StatsService.of_run_computeFor_ok hresult
  cases hv
  exact ⟨d, _, _, hfound, rfl, hsnapshot⟩

/-- **What a step writes is for the deployment that the step is for.** -/
theorem target?_of_write (hkeyed : s.dataflows.Keyed) (h : step.write? s = some w) :
    step.target? = some w.dataflow.deploymentId := by
  cases htarget : step.target? with
  | none => cases (write?_of_target?_eq_none htarget).symm.trans h
  | some id =>
    rw [← htarget]
    cases step with
    | insert d =>
      cases h
      rfl
    | save d =>
      obtain ⟨_, -, rfl⟩ := Option.map_eq_some_iff.1 h
      rfl
    | compute id o =>
      obtain ⟨d, d', stats, hfound, rfl, hsnapshot⟩ := of_write?_compute h
      have hid : d'.deploymentId = id :=
        (StatsService.deploymentId_of_snapshot? hsnapshot).trans (hkeyed id d hfound)
      exact congrArg some hid.symm
    | computeOn d o =>
      obtain ⟨_, _, hwritten, rfl⟩ := Write.of_ofComputation? h
      obtain ⟨d', stats, hresult, hv⟩ := of_run_computeOn_ok hwritten
      obtain ⟨-, -, -, hsnapshot⟩ := StatsService.of_run_computeInPlace_ok hresult
      cases hv
      exact congrArg some (StatsService.deploymentId_of_snapshot? hsnapshot).symm
    | record runs => cases htarget
    | query q => cases htarget
    | get id => cases htarget
    | find id => cases htarget
    | setFault op e => cases htarget
    | sync id limit answer => cases htarget

theorem keyed_run (h : s.dataflows.Keyed) (step : Step) : (step.run s).stores.dataflows.Keyed := by
  rw [dataflows_run]
  cases step.write? s with
  | none => exact h
  | some w => exact Write.keyed_into h w

end Step

namespace MemoryDataflows

theorem keyed_empty : empty.Keyed := fun id d h => by cases h

/-- A dataflow that is put where it stands already. -/
theorem putEntry_of_lookup {d : Dataflow} {entries : List (String × Dataflow)}
    (h : entries.lookup d.deploymentId = some d) : putEntry d entries = entries := by
  induction entries with
  | nil => cases h
  | cons entry entries ih =>
    obtain ⟨k, e⟩ := entry
    rw [putEntry]
    rw [List.lookup_cons] at h
    by_cases hk : k = d.deploymentId
    · rw [hk, beq_self_eq_true] at h
      rw [if_pos hk, Option.some.inj h]
    · rw [beq_false_of_ne (Ne.symm hk)] at h
      rw [if_neg hk, ih h]

end MemoryDataflows

/-- In whatever way a session got to where it is, each dataflow stands under its own deployment id. -/
theorem Stores.keyed_after {s : Stores} (h : s.dataflows.Keyed) (steps : List Step) :
    (s.after steps).dataflows.Keyed := by
  induction steps generalizing s with
  | nil => exact h
  | cons step steps ih => exact ih (Step.keyed_run h step)

/-! ## Settled deployments -/

/-- The dataflow of a deployment has the statistics that a computation would give it. -/
structure Settled (s : Stores) (id : String) (o : StatsOptions) (d : Dataflow) (stats : RunTimeStats) :
    Prop where
  /-- each dataflow stands under its own deployment id -/
  keyed : s.dataflows.Keyed
  /-- the dataflow stands in the store -/
  found : s.dataflows.get? id = some d
  /-- the service goes on with it -/
  acceptable : StatsService.Acceptable d o
  /-- it has the snapshot of its latest runs -/
  final : StatsService.snapshot? d (s.history.latest (StatsService.queryOf d o)) = some (d, stats)

namespace Settled

variable {s : Stores} {id : String} {o : StatsOptions} {d : Dataflow} {stats : RunTimeStats} {step : Step}
  {steps : List Step}

theorem deploymentId (h : Settled s id o d stats) : d.deploymentId = id := h.keyed id d h.found

/-- **One step** that is not for the deployment, or computes for it in the same way. -/
theorem run (h : Settled s id o d stats)
    (hforeign : ∀ run ∈ step.recorded s, MemoryHistory.Foreign id s.history.runs run)
    (htarget : step.target? = some id → step = .compute id o) :
    Settled (step.run s).stores id o d stats := by
  have hid : (StatsService.queryOf d o).deploymentId = id := h.deploymentId
  have hlatest : (step.run s).stores.history.latest (StatsService.queryOf d o) =
      s.history.latest (StatsService.queryOf d o) := by
    apply MemoryHistory.latest_congr
    rw [Step.history_run, hid]
    exact MemoryHistory.ofDeployment_record hforeign
  refine ⟨Step.keyed_run h.keyed step, ?_, h.acceptable, hlatest ▸ h.final⟩
  rw [Step.dataflows_run]
  cases hwrite : step.write? s with
  | none => exact h.found
  | some w =>
    change (w.into s.dataflows).get? id = some d
    rw [Write.get?_into]
    split
    next heq =>
      -- a write for the deployment can only be that of the same computation, which changes nothing
      obtain rfl := htarget ((Step.target?_of_write h.keyed hwrite).trans (congrArg some heq))
      obtain ⟨d₁, d', stats', hfound, rfl, hsnapshot⟩ := Step.of_write?_compute hwrite
      obtain rfl := Option.some.inj (h.found.symm.trans hfound)
      cases h.final.symm.trans hsnapshot
      rfl
    next => exact h.found

/-- **Any steps** of that kind. -/
theorem after (h : Settled s id o d stats)
    (hforeign : ∀ run ∈ s.recorded steps, MemoryHistory.Foreign id s.history.runs run)
    (htarget : ∀ step ∈ steps, step.target? = some id → step = .compute id o) :
    Settled (s.after steps) id o d stats := by
  induction steps generalizing s with
  | nil => exact h
  | cons step steps ih =>
    have hstep : ∀ run ∈ step.recorded s, MemoryHistory.Foreign id s.history.runs run :=
      fun run hrun => hforeign run (List.mem_append_left _ hrun)
    have hruns : MemoryHistory.ofDeployment id (step.run s).stores.history.runs =
        MemoryHistory.ofDeployment id s.history.runs := by
      rw [Step.history_run]
      exact MemoryHistory.ofDeployment_record hstep
    apply ih (h.run hstep (htarget step List.mem_cons_self))
    · intro run hrun
      exact (hforeign run (List.mem_append_right _ hrun)).congr hruns
    · intro later hlater
      exact htarget later (List.mem_cons_of_mem step hlater)

/-- **Computing once more** gives the same, and what is saved was there already. -/
theorem compute (h : Settled s id o d stats)
    (horder : StatsService.InOrder s (StatsService.queryOf d o)) :
    let again := (Step.compute id o).run s
    again.result = .ok (.computed d stats) ∧ again.stores.history = s.history ∧
      again.stores.dataflows.entries = s.dataflows.entries ∧ again.stores.fault = s.fault := by
  intro again
  have hid : Text.isBlank id = false := h.deploymentId ▸ h.acceptable.named
  obtain ⟨events, hrun⟩ :=
    StatsService.run_computeFor_of_snapshot hid h.found h.acceptable horder h.final
  have hstores : again.stores =
      StatsService.storesAfter s d (s.history.latest (StatsService.queryOf d o)) :=
    congrArg (·.state) hrun
  refine ⟨congrArg (fun out => out.result.map fun r => StepValue.computed r.1 r.2) hrun, ?_⟩
  rw [hstores, StatsService.storesAfter]
  split
  · exact ⟨rfl, rfl, rfl⟩
  · refine ⟨rfl, MemoryDataflows.putEntry_of_lookup ?_, rfl⟩
    rw [h.deploymentId]
    exact h.found

end Settled

/-- A computation for a deployment that succeeds settles it. -/
theorem Stores.settled_of_compute {s : Stores} {id : String} {o : StatsOptions} {v : StepValue}
    (hkeyed : s.dataflows.Keyed) (h : ((Step.compute id o).run s).result = .ok v) :
    ∃ d stats, v = .computed d stats ∧ Settled ((Step.compute id o).run s).stores id o d stats ∧
      StatsService.InOrder ((Step.compute id o).run s).stores (StatsService.queryOf d o) := by
  obtain ⟨d', stats, hresult, rfl⟩ := Step.of_run_compute_ok h
  obtain ⟨d, hid, hfound, hacceptable, horder, hsnapshot⟩ := StatsService.of_run_computeFor_ok hresult
  obtain ⟨events, hrun⟩ :=
    StatsService.run_computeFor_of_snapshot hid hfound hacceptable horder hsnapshot
  have hstores : ((Step.compute id o).run s).stores =
      StatsService.storesAfter s d' (s.history.latest (StatsService.queryOf d o)) :=
    congrArg (·.state) hrun
  have hd : d.deploymentId = id := hkeyed id d hfound
  have hd' : d'.deploymentId = d.deploymentId := StatsService.deploymentId_of_snapshot? hsnapshot
  have hquery : StatsService.queryOf d' o = StatsService.queryOf d o := by
    rw [StatsService.queryOf, hd']
  subst hd
  refine ⟨d', stats, rfl, ⟨Step.keyed_run hkeyed _, ?_, ?_, ?_⟩, ?_⟩
  · rw [hstores]
    exact StatsService.get?_storesAfter hfound hsnapshot
  · exact ⟨hd' ▸ hacceptable.named, hacceptable.roomy, hacceptable.admitting⟩
  · rw [hstores, StatsService.history_storesAfter, hquery]
    exact StatsService.snapshot?_snapshot? hsnapshot
  · rw [hstores, hquery]
    exact horder.storesAfter

namespace Stores

/-- **Deployments do not disturb each other, and computing once more changes nothing.** In any state that
stores can come to, a computation for a deployment has succeeded. Then come any steps, also ones that
fail: what they record is not of the deployment and takes the place of none of its runs, and what they
insert, save or compute is for other deployments, unless it is the same computation again. After them the
dataflow of the deployment stands in the store as it stood before. Where the stores are in order, the
computation gives the same dataflow and the same statistics, and nothing changes but how many saves were
counted; that is also so at once after the first time. -/
theorem compute_isolated (history : MemoryHistory) (before steps : List Step) (id : String)
    (o : StatsOptions) (v : StepValue) :
    let first := (Step.compute id o).run ((working history .empty).after before)
    let s := first.stores
    first.result = .ok v →
    (∀ run ∈ s.recorded steps, run.deploymentId ≠ id ∧
      ∀ own ∈ s.history.runs, own.deploymentId = id → own.flowRunId ≠ run.flowRunId) →
    (∀ step ∈ steps, step.target? = some id → step = .compute id o) →
    ∃ d stats, v = .computed d stats ∧
      s.dataflows.get? id = some d ∧ (s.after steps).dataflows.get? id = some d ∧
      ∀ t : Stores, t = s ∨ t = working (s.after steps).history (s.after steps).dataflows →
        let again := (Step.compute id o).run t
        again.result = .ok v ∧ again.stores.history = t.history ∧
          again.stores.dataflows.entries = t.dataflows.entries ∧ again.stores.fault = t.fault := by
  intro first s hfirst hrecorded htarget
  have hkeyed : ((working history .empty).after before).dataflows.Keyed :=
    keyed_after MemoryDataflows.keyed_empty before
  obtain ⟨d, stats, rfl, hsettled, horder⟩ := settled_of_compute hkeyed hfirst
  have hafter : Settled (s.after steps) id o d stats := by
    apply hsettled.after _ htarget
    intro run hrun
    obtain ⟨hid, hown⟩ := hrecorded run hrun
    refine ⟨hid, fun own hmem => ?_⟩
    obtain ⟨hmem, heq⟩ := List.mem_filter.1 hmem
    exact hown own hmem (of_decide_eq_true heq)
  refine ⟨d, stats, rfl, hsettled.found, hafter.found, ?_⟩
  rintro t (rfl | rfl)
  · exact hsettled.compute horder
  · have hworking : Settled (working (s.after steps).history (s.after steps).dataflows) id o d stats :=
      ⟨hafter.keyed, hafter.found, hafter.acceptable, hafter.final⟩
    exact hworking.compute (StatsService.inOrder_working _ _ _)

/-- Between two computations for a deployment, a run of another one is recorded, statistics are computed for
that one, and saving gets out of order, so that a computation for the first fails. -/
theorem compute_isolated_interleaved :
    let own : Run := { (default : Run) with
      deploymentId := "dep", flowRunId := "a", totalRunTime := .zero, status := .completed }
    let other : Run := { own with deploymentId := "other", flowRunId := "b" }
    let before : List Step := [.insert { (default : Dataflow) with deploymentId := "dep" },
      .insert { (default : Dataflow) with deploymentId := "other" }]
    let steps : List Step := [.record [other], .compute "other" default,
      .setFault .saveDataflow (some (.database .lost)), .compute "dep" default]
    let first := (Step.compute "dep" default).run ((working ⟨[own]⟩ .empty).after before)
    let after := first.stores.after steps
    let t := working after.history after.dataflows
    ∃ d stats, first.result = .ok (.computed d stats) ∧ after.dataflows.get? "dep" = some d ∧
      ((Step.compute "dep" default).run t).result = .ok (.computed d stats) ∧
      ((Step.compute "dep" default).run t).stores.dataflows.entries = t.dataflows.entries := by
  intro own other before steps first after t
  obtain ⟨v, hv⟩ : ∃ v, first.result = .ok v := by
    have hok : first.result.isOk = true := by decide +kernel
    cases hresult : first.result with
    | error f =>
      rw [hresult] at hok
      cases hok
    | ok v => exact ⟨v, rfl⟩
  have hrecorded : first.stores.recorded steps = [other] := by decide +kernel
  have hruns : first.stores.history.runs = [own] := by decide +kernel
  have hforeign : ∀ run ∈ first.stores.recorded steps, run.deploymentId ≠ "dep" ∧
      ∀ own ∈ first.stores.history.runs, own.deploymentId = "dep" → own.flowRunId ≠ run.flowRunId := by
    rw [hrecorded, hruns]
    simp [own, other]
  have htarget : ∀ step ∈ steps, step.target? = some "dep" → step = .compute "dep" default := by
    simp [steps, Step.target?]
  obtain ⟨d, stats, hvalue, -, hfound, hagain⟩ :=
    compute_isolated ⟨[own]⟩ before steps "dep" default v hv hforeign htarget
  subst hvalue
  obtain ⟨hresult, -, hentries, -⟩ := hagain t (.inr rfl)
  exact ⟨d, stats, hv, hfound, hresult, hentries⟩

end Stores

end FlowRuns
