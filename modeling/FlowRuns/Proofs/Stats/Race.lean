import FlowRuns.Stats.Race
import FlowRuns.Proofs.Boundary
import FlowRuns.Proofs.Dataflow.Saving
import FlowRuns.Proofs.Stores

/-!
# The last computation to save wins

Computations for one deployment run at once, each by its own requests: it looks up the dataflow, asks for
the runs, saves. What another has saved in between is not in the copy that it carries. Nothing is lost
by that and nothing is mixed up, since the copy differs from what is stored in its metadata only, and that is
what each one replaces as a whole.

* `Race.Turn`, `Race.turns` — the requests of the computations, in the order in which they are answered,
  each with the stores that answer it.
* `RacingCall.Stage` — how far a computation has come with its requests.
* `RacingCall.Stage.advance` — one request.
* `Race.Sound`, `Race.Sound.move`, `Race.sound_after` — what every move preserves.
* `Race.lastWriter_wins` — **any race**, after any moves.
-/

namespace FlowRuns

namespace Race

/-! ## Turns -/

/-- One request of a computation. -/
structure Turn where
  /-- whose request it is -/
  index : Nat
  /-- the request -/
  request : storesPeer.Request
  /-- the stores that answer it -/
  stores : Stores

/-- The computation that saves, and what it saves. -/
def Turn.saved? (t : Turn) : Option (Nat × Dataflow) :=
  match t.request with
  | .inr (.save d) => some (t.index, d)
  | _ => none

/-- The request that a move answers, if it does answer one. -/
def turn? (r : Race) : RaceMove → Option Turn
  | .advance i =>
    match r.calls[i]?.map Program.settled with
    | some (.ask request _) => some ⟨i, request, r.stores⟩
    | _ => none
  | .record _ => none

/-- The requests that moves answer. -/
def turns (r : Race) : List RaceMove → List Turn
  | [] => []
  | m :: moves => (r.turn? m).toList ++ (r.move m).turns moves

/-- What turns save, and who does, in order. -/
def saves (turns : List Turn) : List (Nat × Dataflow) := turns.filterMap Turn.saved?

/-- The turns of one computation. -/
def turnsOf (i : Nat) (turns : List Turn) : List Turn := turns.filter fun t => t.index = i

section Moves

variable {r : Race} {i : Nat} {call : RacingCall} {moves : List RaceMove} {m : RaceMove}

theorem Turn.index_of_mem_turnsOf {t : Turn} {turns : List Turn} (h : t ∈ turnsOf i turns) :
    t.index = i :=
  of_decide_eq_true (List.mem_filter.1 h).2

theorem Turn.index_of_saved? {t : Turn} {copy : Dataflow} (h : t.saved? = some (i, copy)) :
    t.index = i := by
  unfold saved? at h
  split at h
  · exact congrArg Prod.fst (Option.some.inj h)
  · cases h

theorem saves_concat (turns : List Turn) (t : Turn) :
    saves (turns ++ [t]) = saves turns ++ t.saved?.toList := by
  rw [saves, List.filterMap_append]
  cases h : t.saved? with
  | none => rw [List.filterMap_cons_none h]; rfl
  | some p => rw [List.filterMap_cons_some h]; rfl

theorem turnsOf_concat (turns : List Turn) (t : Turn) :
    turnsOf i (turns ++ [t]) = if t.index = i then turnsOf i turns ++ [t] else turnsOf i turns := by
  rw [turnsOf, List.filter_append]
  split
  · exact congrArg (turnsOf i turns ++ ·) (List.filter_cons_of_pos (decide_eq_true ‹_›))
  · rename_i hne
    have hnil : [t].filter (fun t => t.index = i) = [] :=
      List.filter_cons_of_neg fun h => hne (of_decide_eq_true h)
    rw [hnil]
    exact List.append_nil _

theorem after_concat : r.after (moves ++ [m]) = (r.after moves).move m := List.foldl_concat ..

theorem of_turn?_eq_some {t : Turn} (h : r.turn? m = some t) :
    m = .advance t.index ∧ t.stores = r.stores := by
  cases m with
  | record runs => cases h
  | advance i =>
    simp only [turn?] at h
    split at h
    · obtain rfl := Option.some.inj h
      exact ⟨rfl, rfl⟩
    · cases h

/-- A turn is a move, and has the stores that this move finds. -/
theorem exists_of_mem_turns {t : Turn} (h : t ∈ r.turns moves) :
    ∃ before rest, moves = before ++ .advance t.index :: rest ∧ t.stores = (r.after before).stores := by
  induction moves generalizing r with
  | nil => cases h
  | cons m moves ih =>
    obtain hturn | hrest := List.mem_append.1 h
    · obtain ⟨rfl, hstores⟩ := of_turn?_eq_some (Option.mem_toList.1 hturn)
      exact ⟨[], moves, rfl, hstores⟩
    · obtain ⟨before, rest, rfl, hstores⟩ := ih hrest
      exact ⟨m :: before, rest, rfl, hstores⟩

theorem turns_concat : r.turns (moves ++ [m]) = r.turns moves ++ ((r.after moves).turn? m).toList := by
  induction moves generalizing r with
  | nil => exact List.append_nil _
  | cons m' moves ih =>
    rw [List.cons_append, turns, ih, turns, List.append_assoc]
    rfl

/-- A computation that is done stays as it is. -/
theorem move_of_done {result : Except Failure (Dataflow × RunTimeStats)} (hcall : r.calls[i]? = some call)
    (hdone : call.settled = .done result) :
    r.turn? (.advance i) = none ∧
      r.move (.advance i) = ⟨r.calls.set i (.done result), r.stores⟩ := by
  refine ⟨?_, ?_⟩
  · rw [turn?, hcall, Option.map_some, hdone]
  · simp only [move, hcall, Program.step, hdone]

/-- A computation has its next request answered. -/
theorem move_of_ask {request : storesPeer.Request} {next : storesPeer.Answer request → RacingCall}
    (hcall : r.calls[i]? = some call) (hask : call.settled = .ask request next) :
    r.turn? (.advance i) = some ⟨i, request, r.stores⟩ ∧
      r.move (.advance i) =
        ⟨r.calls.set i (next (r.stores.serve request).1), (r.stores.serve request).2⟩ := by
  refine ⟨?_, ?_⟩
  · rw [turn?, hcall, Option.map_some, hask]
  · simp only [move, hcall, Program.step, hask]

/-- Nothing moves where there is no computation. -/
theorem move_of_none (hcall : r.calls[i]? = none) :
    r.turn? (.advance i) = none ∧ r.move (.advance i) = r := by
  refine ⟨?_, ?_⟩
  · rw [turn?, hcall, Option.map_none]
  · simp only [move, hcall]

end Moves

end Race

/-! ## One computation -/

namespace RacingCall

open StatsService

/-- A dataflow with other metadata. -/
abbrev withMetadata (d : Dataflow) (metadata : Option Json) : Dataflow := { d with metadata }

/-- A computation in the place of a dataflow hands that back with its result. -/
abbrev handedBack (r : Except Failure RunTimeStats × Dataflow) : RacingCall :=
  .done (r.1.map fun stats => (r.2, stats))

/-- How far a computation has come for a dataflow as it once was: its turns so far, and what is left. -/
inductive Stage (d : Dataflow) (o : StatsOptions) : List Race.Turn → RacingCall → Prop where
  /-- it has not looked up anything -/
  | ready : Stage d o [] (computeFor d.deploymentId o).run
  /-- it has a copy of the dataflow, with the metadata of that time -/
  | found (t₁ : Race.Turn) (h₁ : t₁.request = .inr (.find d.deploymentId)) (metadata : Option Json) :
    Stage d o [t₁] (computeOn (withMetadata d metadata) o).run
  /-- it has the runs of the history of that time -/
  | fetched (t₁ t₂ : Race.Turn) (h₁ : t₁.request = .inr (.find d.deploymentId))
    (h₂ : t₂.request = .inl (.latest (queryOf d o))) (metadata : Option Json) :
    Stage d o [t₁, t₂] ((answered (withMetadata d metadata) o
      (.ok (t₂.stores.history.latest (queryOf d o)))).bind handedBack)
  /-- it has saved the statistics over those runs -/
  | saved (t₁ t₂ t₃ : Race.Turn) (stats : RunTimeStats) (e : Event)
    (h₁ : t₁.request = .inr (.find d.deploymentId))
    (h₂ : t₂.request = .inl (.latest (queryOf d o)))
    (hstats : computeRunTimeStats? (t₂.stores.history.latest (queryOf d o)) = some stats)
    (h₃ : t₃.request = .inr (.save (d.withRunTimeStats stats))) :
    Stage d o [t₁, t₂, t₃] (.report e (.done (.ok (d.withRunTimeStats stats, stats))))

/-- What a request may be that a computation puts, and what it leaves: the stores as they were, or the
dataflow with statistics saved. -/
def Leaves (d : Dataflow) (t : Race.Turn) (after : Stores) : Prop :=
  t.saved? = none ∧ after = t.stores ∨
    ∃ stats, t.saved? = some (t.index, d.withRunTimeStats stats) ∧
      after = { t.stores with dataflows := t.stores.dataflows.save (d.withRunTimeStats stats) }

variable {d : Dataflow} {o : StatsOptions} {turns : List Race.Turn} {call : RacingCall} {s : Stores}
  {metadata : Option Json}

theorem run_computeOn_of_acceptable (h : Acceptable d o) :
    (computeOn d o).run = .ask (.inl (.latest (queryOf d o))) fun a => (answered d o a).bind handedBack :=
  congrArg (Program.bind · handedBack) (program_of_acceptable h)

theorem run_computeOn_of_not_acceptable (h : ¬ Acceptable d o) :
    ∃ f, (computeOn d o).run = .done (.error f) := by
  obtain ⟨v, hv⟩ := program_of_not_acceptable h
  exact ⟨_, congrArg (Program.bind · handedBack) hv⟩

/-- What is left of a computation that has some runs. -/
theorem settled_answered {runs : List Run} (hruns : runs ≠ []) (d : Dataflow) (o : StatsOptions) :
    ((answered d o (.ok runs)).bind handedBack).settled = ((storing d runs).bind handedBack).settled := by
  rw [answered, if_neg hruns]
  rfl

/-- **One request**: a computation is done, or it puts a request that brings it one stage further. What
others have saved meanwhile does not matter to it, as long as it is the metadata only that they changed. -/
theorem Stage.advance (h : Stage d o turns call) (i : Nat) (hfault : ∀ op, s.fault op = none)
    (hstored : s.dataflows.get? d.deploymentId = some (withMetadata d metadata)) :
    (∃ result, call.settled = .done result) ∨
      ∃ request next, call.settled = .ask request next ∧
        Stage d o (turns ++ [⟨i, request, s⟩]) (next (s.serve request).1) ∧
        Leaves d ⟨i, request, s⟩ (s.serve request).2 := by
  cases h with
  | ready =>
    cases hid : Text.isBlank d.deploymentId with
    | true => exact .inl ⟨_, congrArg Program.settled (EntryCall.run_computeFor_of_blank o hid)⟩
    | false =>
      refine .inr ⟨_, _, congrArg Program.settled (EntryCall.run_computeFor_of_named hid), ?_, ?_⟩
      · rw [Stores.serve_find (hfault _), hstored]
        exact .found _ rfl metadata
      · rw [Stores.serve_find (hfault _)]
        exact .inl ⟨rfl, rfl⟩
  | found t₁ h₁ carried =>
    by_cases hok : Acceptable (withMetadata d carried) o
    · refine .inr ⟨_, _, congrArg Program.settled (run_computeOn_of_acceptable hok), ?_, ?_⟩
      · rw [Stores.serve_latest (hfault _)]
        exact .fetched t₁ _ h₁ rfl carried
      · rw [Stores.serve_latest (hfault _)]
        exact .inl ⟨rfl, rfl⟩
    · obtain ⟨f, hf⟩ := run_computeOn_of_not_acceptable hok
      exact .inl ⟨_, congrArg Program.settled hf⟩
  | fetched t₁ t₂ h₁ h₂ carried =>
    by_cases hruns : t₂.stores.history.latest (queryOf d o) = []
    · rw [hruns]
      exact .inl ⟨_, rfl⟩
    · rw [settled_answered hruns, storing]
      cases hstats : computeRunTimeStats? (t₂.stores.history.latest (queryOf d o)) with
      | none => exact .inl ⟨_, rfl⟩
      | some stats =>
        refine .inr ⟨_, _, rfl, ?_, ?_⟩
        · rw [Stores.serve_save (hfault _)]
          exact .saved t₁ t₂ _ stats _ h₁ h₂ hstats rfl
        · rw [Stores.serve_save (hfault _)]
          exact .inr ⟨stats, rfl, rfl⟩
  | saved t₁ t₂ t₃ stats e h₁ h₂ hstats h₃ => exact .inl ⟨_, rfl⟩

/-- A computation that has saved is done: it has found the dataflow, had its own query answered, and given
what it saved. -/
theorem Stage.of_mem_saves (h : Stage d o turns call) {i : Nat} {copy : Dataflow}
    (hsaved : (i, copy) ∈ Race.saves turns) :
    ∃ t₁ t₂ t₃ stats, turns = [t₁, t₂, t₃] ∧ t₁.request = .inr (.find d.deploymentId) ∧
      t₂.request = .inl (.latest (queryOf d o)) ∧ t₃.request = .inr (.save copy) ∧
      computeRunTimeStats? (t₂.stores.history.latest (queryOf d o)) = some stats ∧
      copy = d.withRunTimeStats stats ∧ call.settled = .done (.ok (copy, stats)) := by
  obtain ⟨t, hmem, ht⟩ := List.mem_filterMap.1 hsaved
  -- only the third request is a save
  have hnot {t : Race.Turn} {r : storesPeer.Request} (hr : t.request = r)
      (hnone : ∀ copy, r ≠ .inr (.save copy)) : t.saved? ≠ some (i, copy) := by
    unfold Race.Turn.saved?
    split
    · exact absurd (hr.symm.trans ‹_›) (hnone _)
    · nofun
  cases h with
  | ready => cases hmem
  | found t₁ h₁ carried =>
    obtain rfl := List.mem_singleton.1 hmem
    exact absurd ht (hnot h₁ nofun)
  | fetched t₁ t₂ h₁ h₂ carried =>
    obtain rfl | htail := List.mem_cons.1 hmem
    · exact absurd ht (hnot h₁ nofun)
    · obtain rfl := List.mem_singleton.1 htail
      exact absurd ht (hnot h₂ nofun)
  | saved t₁ t₂ t₃ stats e h₁ h₂ hstats h₃ =>
    obtain rfl | htail := List.mem_cons.1 hmem
    · exact absurd ht (hnot h₁ nofun)
    · obtain rfl | htail := List.mem_cons.1 htail
      · exact absurd ht (hnot h₂ nofun)
      · obtain rfl := List.mem_singleton.1 htail
        rw [Race.Turn.saved?, h₃] at ht
        obtain ⟨-, rfl⟩ := Prod.mk.inj (Option.some.inj ht)
        exact ⟨_, _, _, stats, rfl, h₁, h₂, h₃, hstats, rfl, rfl⟩

end RacingCall

/-! ## Any race -/

namespace Race

open StatsService RacingCall

/-- What holds of a race after some turns. -/
structure Sound (d : Dataflow) (options : List StatsOptions) (turns : List Turn) (now : Race) : Prop where
  /-- no operation is out of order -/
  faultless : ∀ op, now.stores.fault op = none
  /-- what was saved last is stored, or the dataflow as it was first -/
  stored : now.stores.dataflows.get? d.deploymentId =
    some (((saves turns).getLast?.map Prod.snd).getD d)
  /-- only metadata is changed -/
  kept : ∀ p ∈ saves turns, ∃ stats, p.2 = d.withRunTimeStats stats
  /-- there are as many computations as at first -/
  length : now.calls.length = options.length
  /-- no other has put requests -/
  within : ∀ t ∈ turns, t.index < options.length
  /-- each computation is at some stage of its own turns -/
  stage : ∀ i o, options[i]? = some o → ∃ call stage, now.calls[i]? = some call ∧
    Stage d o (turnsOf i turns) stage ∧ call.settled = stage.settled

variable {d : Dataflow} {options : List StatsOptions} {turns : List Turn} {now : Race}

theorem sound_start (history : MemoryHistory) {dataflows : MemoryDataflows}
    (h : dataflows.get? d.deploymentId = some d) (options : List StatsOptions) :
    Sound d options [] (start d.deploymentId options (.working history dataflows)) where
  faultless _ := rfl
  stored := h
  kept := nofun
  length := List.length_map ..
  within := nofun
  stage i o ho := ⟨_, _, by rw [start, List.getElem?_map, ho, Option.map_some], .ready, rfl⟩

/-- The stored dataflow is the first one but for its metadata. -/
theorem Sound.withMetadata (h : Sound d options turns now) :
    ∃ metadata, now.stores.dataflows.get? d.deploymentId = some (withMetadata d metadata) := by
  cases hlast : (saves turns).getLast? with
  | none => exact ⟨d.metadata, by rw [h.stored, hlast]; rfl⟩
  | some p =>
    obtain ⟨stats, hstats⟩ := h.kept p (List.mem_of_getLast? hlast)
    exact ⟨some stats.toJson, by rw [h.stored, hlast, Option.map_some, hstats]; rfl⟩

/-- Runs that are recorded change neither the dataflows nor the computations. -/
theorem Sound.record (h : Sound d options turns now) (runs : List Run) :
    Sound d options turns (now.move (.record runs)) := by
  have hmove : now.move (.record runs) =
      ⟨now.calls, { now.stores with history := now.stores.history.record runs }⟩ := by
    rw [move, Stores.serveHistory_record (h.faultless _)]
  rw [hmove]
  exact ⟨h.faultless, h.stored, h.kept, h.length, h.within, h.stage⟩

/-- A computation that is done, seen once more. -/
theorem Sound.set_done (h : Sound d options turns now) {i : Nat} {call : RacingCall}
    {result : Except Failure (Dataflow × RunTimeStats)} (hcall : now.calls[i]? = some call)
    (hdone : call.settled = .done result) :
    Sound d options turns ⟨now.calls.set i (.done result), now.stores⟩ where
  faultless := h.faultless
  stored := h.stored
  kept := h.kept
  length := (List.length_set ..).trans h.length
  within := h.within
  stage j o ho := by
    obtain ⟨call', stage, hcall', hstage, hsettled⟩ := h.stage j o ho
    rcases eq_or_ne i j with rfl | hne
    · obtain rfl := Option.some.inj (hcall.symm.trans hcall')
      refine ⟨.done result, stage, ?_, hstage, hdone.symm.trans hsettled⟩
      exact List.getElem?_set_self (List.getElem?_eq_some_iff.1 hcall).1
    · exact ⟨call', stage, (List.getElem?_set_ne hne).trans hcall', hstage, hsettled⟩

/-- A turn of one computation: that one is a stage further, and the others are where they were. -/
theorem Sound.set_next (h : Sound d options turns now) {t : Turn} {o : StatsOptions} {call next : RacingCall}
    {after : Stores} (hstores : t.stores = now.stores) (ho : options[t.index]? = some o)
    (hcall : now.calls[t.index]? = some call) (hstage : Stage d o (turnsOf t.index turns ++ [t]) next)
    (hleaves : Leaves d t after) :
    Sound d options (turns ++ [t]) ⟨now.calls.set t.index next, after⟩ := by
  have hstages : ∀ j o', options[j]? = some o' → ∃ call' stage,
      (now.calls.set t.index next)[j]? = some call' ∧ Stage d o' (turnsOf j (turns ++ [t])) stage ∧
        call'.settled = stage.settled := by
    intro j o' ho'
    rw [turnsOf_concat]
    rcases eq_or_ne t.index j with rfl | hne
    · obtain rfl := Option.some.inj (ho.symm.trans ho')
      rw [if_pos rfl]
      refine ⟨next, next, ?_, hstage, rfl⟩
      exact List.getElem?_set_self (List.getElem?_eq_some_iff.1 hcall).1
    · rw [if_neg hne, List.getElem?_set_ne hne]
      exact h.stage j o' ho'
  have hlength : (now.calls.set t.index next).length = options.length :=
    (List.length_set ..).trans h.length
  have hwithin : ∀ t' ∈ turns ++ [t], t'.index < options.length := by
    intro t' ht'
    obtain hold | hnew := List.mem_append.1 ht'
    · exact h.within t' hold
    · exact List.mem_singleton.1 hnew ▸ (List.getElem?_eq_some_iff.1 ho).1
  obtain ⟨hsaved, rfl⟩ | ⟨stats, hsaved, rfl⟩ := hleaves
  · rw [hstores]
    refine ⟨h.faultless, ?_, ?_, hlength, hwithin, hstages⟩
    · rw [saves_concat, hsaved]
      exact (List.append_nil _).symm ▸ h.stored
    · rw [saves_concat, hsaved]
      exact (List.append_nil _).symm ▸ h.kept
  · rw [hstores]
    refine ⟨h.faultless, ?_, ?_, hlength, hwithin, hstages⟩
    · rw [saves_concat, hsaved, Option.toList_some, List.getLast?_concat, Option.map_some,
        Option.getD_some, MemoryDataflows.get?_save]
      exact if_pos rfl
    · rw [saves_concat, hsaved]
      intro p hp
      obtain hold | hnew := List.mem_append.1 hp
      · exact h.kept p hold
      · obtain rfl := List.mem_singleton.1 hnew
        exact ⟨stats, rfl⟩

/-- **One move**, with the turn that it is. -/
theorem Sound.move (h : Sound d options turns now) (m : RaceMove) :
    Sound d options (turns ++ (now.turn? m).toList) (now.move m) := by
  cases m with
  | record runs => exact (List.append_nil turns).symm ▸ h.record runs
  | advance i =>
    cases hcall : now.calls[i]? with
    | none =>
      obtain ⟨hturn, hmove⟩ := move_of_none hcall
      rw [hturn, hmove]
      exact (List.append_nil turns).symm ▸ h
    | some call =>
      have hlt : i < options.length := h.length ▸ (List.getElem?_eq_some_iff.1 hcall).1
      have ho := List.getElem?_eq_getElem hlt
      obtain ⟨call', stage, hcall', hstage, hsettled⟩ := h.stage i _ ho
      obtain rfl := Option.some.inj (hcall.symm.trans hcall')
      obtain ⟨metadata, hstored⟩ := h.withMetadata
      obtain ⟨result, hdone⟩ | ⟨request, next, hask, hnext, hleaves⟩ :=
        hstage.advance i h.faultless hstored
      · obtain ⟨hturn, hmove⟩ := move_of_done hcall (hsettled.trans hdone)
        rw [hturn, hmove]
        exact (List.append_nil turns).symm ▸ h.set_done hcall (hsettled.trans hdone)
      · obtain ⟨hturn, hmove⟩ := move_of_ask hcall (hsettled.trans hask)
        rw [hturn, hmove]
        exact h.set_next rfl ho hcall hnext hleaves

/-- **Any moves**, in any order. -/
theorem sound_after (h : Sound d options [] now) (moves : List RaceMove) :
    Sound d options (now.turns moves) (now.after moves) := by
  induction moves using List.reverseRecOn with
  | nil => exact h
  | append_singleton moves m ih =>
    rw [turns_concat, after_concat]
    exact ih.move m

/-- **The last computation to save wins, and no two are mixed up.** However the computations for a stored
dataflow and the recording of runs take turns, what is stored is the dataflow as it was first, or what was
saved last. A computation that has saved has found the dataflow, has had its query answered by the history
as that stood then, and has saved the dataflow as it was first with the statistics over that answer in its
metadata; it is done, and has given just this dataflow and these statistics. -/
theorem lastWriter_wins (history : MemoryHistory) (dataflows : MemoryDataflows) (d : Dataflow)
    (h : dataflows.get? d.deploymentId = some d) (options : List StatsOptions) (moves : List RaceMove) :
    let first := start d.deploymentId options (.working history dataflows)
    let now := first.after moves
    let saved := saves (first.turns moves)
    now.stores.dataflows.get? d.deploymentId = some ((saved.getLast?.map Prod.snd).getD d) ∧
      ∀ i copy, (i, copy) ∈ saved → ∃ o stats before rest s₁ s₃,
        let q : HistoryQuery := ⟨d.deploymentId, o.statuses, o.limit⟩
        let asked := (first.after before).stores
        options[i]? = some o ∧ moves = before ++ .advance i :: rest ∧
        turnsOf i (first.turns moves) = [⟨i, .inr (.find d.deploymentId), s₁⟩,
          ⟨i, .inl (.latest q), asked⟩, ⟨i, .inr (.save copy), s₃⟩] ∧
        computeRunTimeStats? (asked.history.latest q) = some stats ∧
        copy = { d with metadata := some stats.toJson } ∧
        now.result? i = some (.ok (copy, stats)) := by
  intro first now saved
  have hsound : Sound d options (first.turns moves) now :=
    sound_after (sound_start history h options) moves
  refine ⟨hsound.stored, fun i copy hsaved => ?_⟩
  -- the turn in which the dataflow was saved is one of the computation's own
  obtain ⟨t, ht, htsaved⟩ := List.mem_filterMap.1 hsaved
  obtain rfl := t.index_of_saved? htsaved
  obtain ⟨o, ho⟩ : ∃ o, options[t.index]? = some o :=
    ⟨_, List.getElem?_eq_getElem (hsound.within t ht)⟩
  obtain ⟨call, stage, hcall, hstage, hsettled⟩ := hsound.stage t.index o ho
  have hown : t ∈ turnsOf t.index (first.turns moves) := List.mem_filter.2 ⟨ht, decide_eq_true rfl⟩
  obtain ⟨t₁, t₂, t₃, stats, hturns, h₁, h₂, h₃, hstats, hcopy, hdone⟩ :=
    hstage.of_mem_saves (List.mem_filterMap.2 ⟨t, hown, htsaved⟩)
  have hindex : ∀ t' ∈ [t₁, t₂, t₃], t'.index = t.index ∧ t' ∈ first.turns moves := by
    rw [← hturns]
    exact fun t' ht' => ⟨Turn.index_of_mem_turnsOf ht', List.mem_of_mem_filter ht'⟩
  obtain ⟨hi₁, -⟩ := hindex t₁ (by simp)
  obtain ⟨hi₂, hmem₂⟩ := hindex t₂ (by simp)
  obtain ⟨hi₃, -⟩ := hindex t₃ (by simp)
  obtain ⟨before, rest, hmoves, hstores⟩ := exists_of_mem_turns hmem₂
  rw [hi₂] at hmoves
  rw [hstores] at hstats
  refine ⟨o, stats, before, rest, t₁.stores, t₃.stores, ho, hmoves, ?_, hstats, hcopy, ?_⟩
  · have hown (t' : Turn) (hi : t'.index = t.index) : ⟨t.index, t'.request, t'.stores⟩ = t' := hi ▸ rfl
    rw [hturns, ← hstores, ← h₁, ← h₂, ← h₃, hown t₁ hi₁, hown t₂ hi₂, hown t₃ hi₃]
  · simp only [result?, hcall, hsettled, hdone]

/-- Two computations look up the same dataflow. A run is recorded anew after the first has asked for the runs
and before the second does, and then both save. The second was the last to save: its dataflow is stored, with
the statistics that it gave. -/
theorem lastWriter_wins_overtaken :
    let run : Run := { (default : Run) with
      deploymentId := "dep", flowRunId := "a", totalRunTime := .zero, status := .completed }
    let d : Dataflow := { (default : Dataflow) with deploymentId := "dep" }
    let dataflows := MemoryDataflows.empty.insert d
    let moves : List RaceMove := [.advance 0, .advance 1, .advance 0,
      .record [{ run with totalRunTime := .infinite false }], .advance 1, .advance 0, .advance 1]
    let first := start d.deploymentId [default, default] (.working ⟨[run]⟩ dataflows)
    dataflows.get? d.deploymentId = some d ∧ ∃ copy stats,
      (first.after moves).result? 1 = some (.ok (copy, stats)) ∧
      (first.after moves).stores.dataflows.get? d.deploymentId = some copy ∧
      copy = { d with metadata := some stats.toJson } := by
  intro run d dataflows moves
  obtain ⟨hstored, hsaved⟩ := lastWriter_wins ⟨[run]⟩ dataflows d rfl [default, default] moves
  have hlast : ((saves ((start d.deploymentId [default, default] (.working ⟨[run]⟩ dataflows)).turns
      moves)).getLast?.map Prod.fst) = some 1 := by decide +kernel
  obtain ⟨⟨i, copy⟩, hcopy, hi⟩ := Option.map_eq_some_iff.1 hlast
  obtain rfl : i = 1 := hi
  rw [hcopy, Option.map_some, Option.getD_some] at hstored
  obtain ⟨o, stats, before, rest, s₁, s₃, -, -, -, -, hmetadata, hresult⟩ :=
    hsaved 1 copy (List.mem_of_getLast? hcopy)
  exact ⟨rfl, copy, stats, hresult, hstored, hmetadata⟩

end Race

end FlowRuns
