import FlowRuns.Logs
import FlowRuns.Session
import FlowRuns.Proofs.Stats.AtomicUpdate

/-!
# Arguments at the boundary

The operations that take arguments from outside check them before they ask anybody for anything.
There is one way around that: computing statistics for the dataflow of a deployment looks the dataflow
up once the deployment is named, and checks how many runs are wanted, and in which states, only when
there is a dataflow.

* `EntryCall` — a call from outside, with its arguments, its collaborators and its program.
* `EntryCall.Invalid` — some argument is one that no operation accepts.
* `EntryCall.LooksUpFirst` — the calls that ask before they have checked everything.
* `invalid_refusedUnasked_iff` — an invalid call is refused and nobody is asked, unless it looks
  something up first; and what such a call ends with.
-/

namespace FlowRuns

/-- A call from outside. -/
inductive EntryCall where
  /-- the statistics of a dataflow in hand -/
  | computeOn (dataflow : Dataflow) (options : StatsOptions)
  /-- the statistics of the dataflow of a deployment -/
  | computeFor (deploymentId : String) (options : StatsOptions)
  /-- a whole log -/
  | fetchAll (flowRunId : String) (taskRunId : Option String) (pageSize : UInt32)
  /-- the flow runs of a deployment are copied into the history -/
  | sync (deploymentId : String) (limit : Option UInt32)

namespace EntryCall

/-! ## Calls and what is wrong with them -/

/-- The collaborators of a call. -/
def peer : EntryCall → Peer
  | computeOn .. => storesPeer
  | computeFor .. => storesPeer
  | fetchAll .. => logPeer
  | sync .. => syncPeer

/-- What a call gives when all goes well. -/
def Value : EntryCall → Type
  | computeOn .. => Dataflow × RunTimeStats
  | computeFor .. => Dataflow × RunTimeStats
  | fetchAll .. => List String
  | sync .. => UInt64

/-- The program of a call. -/
def program : (c : EntryCall) → Program c.peer (Except Failure c.Value)
  | computeOn d o => (StatsService.computeOn d o).run
  | computeFor id o => (StatsService.computeFor id o).run
  | fetchAll id task size => (Logs.fetchAll id task size).run
  | sync id limit => (syncDeployment id limit).run

/-- Some argument is one that no operation accepts. -/
def Invalid : EntryCall → Prop
  | computeOn d o => Text.isBlank d.deploymentId = true ∨ o.limit = 0 ∨ o.statuses = []
  | computeFor id o => Text.isBlank id = true ∨ o.limit = 0 ∨ o.statuses = []
  | fetchAll id _ size => Text.isBlank id = true ∨ size = 0
  | sync id _ => Text.isBlank id = true

/-- The calls that ask for something before all arguments are checked: those that name a deployment
and look up its dataflow. -/
def LooksUpFirst : EntryCall → Prop
  | computeFor id _ => Text.isBlank id = false
  | _ => False

section

variable {σ : Type}

/-- What a call leaves behind, against collaborators that keep what they are asked. -/
abbrev leaves (c : EntryCall) (serve : (r : c.peer.Request) → σ → c.peer.Answer r × σ) (s : σ) :
    Program.Outcome (σ × List c.peer.Request) (Except Failure c.Value) :=
  c.program.run (Program.recording serve) (s, [])

/-- The call ends with a violation, nothing is reported, and nobody was asked for anything. -/
def RefusedUnasked (c : EntryCall) (serve : (r : c.peer.Request) → σ → c.peer.Answer r × σ) (s : σ) :
    Prop :=
  ∃ v, c.leaves serve s = ⟨.error (.error (.validation v)), [], (s, [])⟩

/-- How an invalid call that looks up a dataflow ends after the answer: with the error of the store, or
that there is no such dataflow, or with a violation if there is one. -/
def LookUpEnds (id : String) (answer : Except FlowError (Option Dataflow))
    (result : Except Failure (Dataflow × RunTimeStats)) : Prop :=
  match answer with
  | .error e => result = .error (.error e)
  | .ok none => result = .error (.error (.notFound ("dataflow for deployment " ++ id)))
  | .ok (some _) => ∃ v, result = .error (.error (.validation v))

/-- The call asks for the dataflow of its deployment and for nothing else, and ends as the answer has
it. -/
def AsksAndEnds : (c : EntryCall) → (serve : (r : c.peer.Request) → σ → c.peer.Answer r × σ) →
    (s : σ) → Prop
  | computeFor id o, serve, s => ∃ result,
    (computeFor id o).leaves serve s =
      ⟨result, [], ((serve (.inr (.find id)) s).2, [.inr (.find id)])⟩ ∧
    LookUpEnds id (serve (.inr (.find id)) s).1 result
  | _, _, _ => False

end

/-! ## Refusals -/

/-- A call whose program is a refusal. -/
theorem refusedUnasked_of_program {σ : Type} {c : EntryCall} {v : Violation}
    (h : c.program = .done (.error (.error (.validation v))))
    (serve : (r : c.peer.Request) → σ → c.peer.Answer r × σ) (s : σ) : c.RefusedUnasked serve s :=
  ⟨v, by rw [leaves, h]; rfl⟩

theorem run_computeOn_of_invalid {d : Dataflow} {o : StatsOptions}
    (h : (computeOn d o).Invalid) :
    ∃ v, (StatsService.computeOn d o).run = .done (.error (.error (.validation v))) := by
  have hno : ¬ StatsService.Acceptable d o := fun ha => by
    obtain hid | hlimit | hss := h
    · rw [ha.named] at hid
      cases hid
    · exact ha.roomy hlimit
    · exact ha.admitting hss
  obtain ⟨v, hv⟩ := StatsService.program_of_not_acceptable hno
  refine ⟨v, ?_⟩
  change ((StatsService.computeInPlace o).program d).bind _ = _
  rw [hv]
  rfl

theorem run_computeFor_of_blank {id : String} (o : StatsOptions) (h : Text.isBlank id = true) :
    (StatsService.computeFor id o).run =
      .done (.error (.error (.validation (.blank "deployment_id")))) := by
  unfold StatsService.computeFor Validation.deploymentId
  rw [Validation.identifier_of_blank h, Fallible.run_ofExcept_error_bind]

theorem run_fetchAll_of_invalid {id : String} (task : Option String) {size : UInt32}
    (h : (fetchAll id task size).Invalid) :
    ∃ v, (Logs.fetchAll id task size).run = .done (.error (.error (.validation v))) := by
  unfold Logs.fetchAll Validation.flowRunId
  cases hid : Text.isBlank id with
  | true =>
    refine ⟨.blank "flow_run_id", ?_⟩
    rw [Validation.identifier_of_blank hid, Fallible.run_ofExcept_error_bind]
  | false =>
    obtain hblank | rfl := h
    · rw [hid] at hblank
      cases hblank
    · refine ⟨.zeroPageSize, ?_⟩
      rw [Validation.identifier_of_named hid, Fallible.run_ofExcept_ok_bind, PageSize.ofLines_zero,
        Fallible.run_ofExcept_error_bind]

theorem run_sync_of_blank {id : String} (limit : Option UInt32) (h : Text.isBlank id = true) :
    (syncDeployment id limit).run =
      .done (.error (.error (.validation (.blank "deployment_id")))) := by
  unfold syncDeployment Validation.deploymentId
  rw [Validation.identifier_of_blank h, Fallible.run_ofExcept_error_bind]

/-- Every invalid call that does not look something up first is refused, and nobody is asked. -/
theorem refusedUnasked_of_invalid {σ : Type} {c : EntryCall} (h : c.Invalid) (hlook : ¬ c.LooksUpFirst)
    (serve : (r : c.peer.Request) → σ → c.peer.Answer r × σ) (s : σ) : c.RefusedUnasked serve s := by
  cases c with
  | computeOn d o =>
    obtain ⟨v, hv⟩ := run_computeOn_of_invalid h
    exact refusedUnasked_of_program (c := computeOn d o) hv serve s
  | computeFor id o =>
    have hid : Text.isBlank id = true := by simpa [LooksUpFirst] using hlook
    exact refusedUnasked_of_program (c := computeFor id o) (run_computeFor_of_blank o hid) serve s
  | fetchAll id task size =>
    obtain ⟨v, hv⟩ := run_fetchAll_of_invalid task h
    exact refusedUnasked_of_program (c := fetchAll id task size) hv serve s
  | sync id limit =>
    exact refusedUnasked_of_program (c := sync id limit) (run_sync_of_blank limit h) serve s

/-! ## The way around -/

section LookUp

variable {σ : Type} {id : String} {o : StatsOptions}

/-- What follows the answer of the store to the look-up of a dataflow. -/
def lookedUp (id : String) (o : StatsOptions) (answer : Except FlowError (Option Dataflow)) :
    Program storesPeer (Except Failure (Dataflow × RunTimeStats)) :=
  match answer with
  | .error e => .done (.error (.error e))
  | .ok none => .done (.error (.error (.notFound ("dataflow for deployment " ++ id))))
  | .ok (some d) => (StatsService.computeOn d o).run

theorem run_findDataflow (id : String) :
    (StatsService.findDataflow id).run =
      .ask (.inr (.find id)) fun (answer : Except FlowError (Option Dataflow)) =>
        .done (answer.mapError .error) :=
  Fallible.run_ask_bind (P := storesPeer) (.inr (.find id))
    fun (a : Except FlowError (Option Dataflow)) => a

/-- A deployment that is named is looked up before anything else is checked. -/
theorem run_computeFor_of_named (h : Text.isBlank id = false) :
    (StatsService.computeFor id o).run = .ask (.inr (.find id)) (lookedUp id o) := by
  unfold StatsService.computeFor Validation.deploymentId
  rw [Validation.identifier_of_named h, Fallible.run_ofExcept_ok_bind, Program.runExcept_bind,
    run_findDataflow]
  refine congrArg (Program.ask _) (funext fun (answer : Except FlowError (Option Dataflow)) => ?_)
  cases answer with
  | error e => rfl
  | ok found =>
    cases found with
    | none => rfl
    | some d => rfl

variable {serve : (r : storesPeer.Request) → σ → storesPeer.Answer r × σ} {s s₁ : σ}
  {answer : Except FlowError (Option Dataflow)}

/-- The rest of a call that names a deployment, after the answer of the store. -/
theorem leaves_computeFor_of_named (h : Text.isBlank id = false)
    (hfind : serve (.inr (.find id)) s = (answer, s₁)) :
    (computeFor id o).leaves serve s =
      Program.run (Program.recording serve) (lookedUp id o answer) (s₁, [.inr (.find id)]) := by
  change Program.run (Program.recording serve) (StatsService.computeFor id o).run (s, []) = _
  rw [run_computeFor_of_named h]
  exact (Program.run_recording_ask hfind).trans rfl

/-- An invalid call that names a deployment asks for its dataflow, and for nothing else. -/
theorem lookUpEnds_of_named (hinvalid : (computeFor id o).Invalid) (h : Text.isBlank id = false)
    (hfind : serve (.inr (.find id)) s = (answer, s₁)) :
    ∃ result, (computeFor id o).leaves serve s = ⟨result, [], (s₁, [.inr (.find id)])⟩ ∧
      LookUpEnds id answer result := by
  rw [leaves_computeFor_of_named h hfind]
  cases answer with
  | error e => exact ⟨_, rfl, rfl⟩
  | ok found =>
    cases found with
    | none => exact ⟨_, rfl, rfl⟩
    | some d =>
      have hd : (computeOn d o).Invalid := by
        obtain hid | hrest := hinvalid
        · rw [h] at hid
          cases hid
        · exact .inr hrest
      obtain ⟨v, hv⟩ := run_computeOn_of_invalid hd
      refine ⟨.error (.error (.validation v)), ?_, v, rfl⟩
      rw [lookedUp, hv]
      rfl

end LookUp

/-- **Refused at the boundary, but for one way around.** Whatever the collaborators hold and answer, an
invalid call ends with a violation before anybody is asked exactly if it is none that looks up the
dataflow of a deployment it names. Such a call asks for that dataflow and for nothing else, and ends
as the answer has it. -/
theorem invalid_refusedUnasked_iff (c : EntryCall) (h : c.Invalid) {σ : Type}
    (serve : (r : c.peer.Request) → σ → c.peer.Answer r × σ) (s : σ) :
    (c.RefusedUnasked serve s ↔ ¬ c.LooksUpFirst) ∧
      (c.LooksUpFirst → c.AsksAndEnds serve s) := by
  have hends : c.LooksUpFirst → c.AsksAndEnds serve s := fun hlook => by
    cases c with
    | computeFor id o => exact lookUpEnds_of_named h hlook rfl
    | computeOn d o => cases hlook
    | fetchAll id task size => cases hlook
    | sync id limit => cases hlook
  refine ⟨⟨fun ⟨v, hv⟩ hlook => ?_, fun hlook => refusedUnasked_of_invalid h hlook serve s⟩, hends⟩
  -- a call that looks something up has asked for it, so it was not refused unasked
  cases c with
  | computeFor id o =>
    obtain ⟨result, hresult, _⟩ := hends hlook
    have hasked := congrArg (·.state.2) (hresult.symm.trans hv)
    cases hasked
  | computeOn d o => cases hlook
  | fetchAll id task size => cases hlook
  | sync id limit => cases hlook

/-- A page without lines of a flow run's log is refused, and nobody is asked for a page. -/
theorem invalid_refusedUnasked_iff_emptyPages :
    let call : EntryCall := .fetchAll "run" none 0
    let serve (_ : logPeer.Request) (s : Nat) : Except FlowError (List String) × Nat := (.ok [], s + 1)
    call.Invalid ∧ call.RefusedUnasked serve 0 := by
  intro call serve
  have h : call.Invalid := .inr rfl
  exact ⟨h, (invalid_refusedUnasked_iff call h serve 0).1.2 id⟩

/-- No runs of a deployment that no store knows: the call is invalid, and yet it asks for the dataflow
and says that there is none. -/
theorem not_refusedUnasked_missingDataflow :
    let call : EntryCall := .computeFor "dep" ⟨0, [.completed]⟩
    call.Invalid ∧ ¬ call.RefusedUnasked Stores.serve default ∧
      (call.leaves Stores.serve default).result =
        .error (.error (.notFound "dataflow for deployment dep")) ∧
      (call.leaves Stores.serve default).state.2 = [.inr (.find "dep")] := by
  intro call
  have hid : Text.isBlank "dep" = false := by decide +kernel
  have hleaves : call.leaves Stores.serve default =
      ⟨.error (.error (.notFound "dataflow for deployment dep")), [],
        (default, [.inr (.find "dep")])⟩ :=
    (leaves_computeFor_of_named (s := default) (o := ⟨0, [.completed]⟩) hid rfl).trans rfl
  refine ⟨.inr (.inl rfl), fun ⟨v, hv⟩ => ?_, congrArg (·.result) hleaves,
    congrArg (·.state.2) hleaves⟩
  have hasked := congrArg (·.state.2) (hleaves.symm.trans hv)
  cases hasked

end EntryCall

end FlowRuns
