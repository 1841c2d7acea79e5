import FlowRuns.Database.Stores
import FlowRuns.Proofs.Program

/-!
# Transactions

Runs are recorded in the database as one transaction: it begins, each run is upserted, and it is committed.
The database may fail at any of these statements. The first failure ends the transaction, so that nothing of
it counts: whatever comes later is not sent, and least of all the commit.

* `Database.Succeed`, `Database.FailsFirst` — statements that all succeed, and the first that does not.
* `Database.run_forM_executeWithin`, `Database.run_forM_executeWithin_of_fails` — statements within a
  transaction, by the replies to them.
* `Database.run_transaction`, `Database.run_transaction_of_fails` — a whole transaction.
* `Database.commit_sent_iff`, `Database.recordRuns_allOrNothing` — **the statements and the result of recording
  runs.**
-/

namespace FlowRuns

/-- Why a reply is a failure, if it is one. -/
def DatabaseReply.fault? : DatabaseReply → Option DatabaseFault
  | rows _ => none
  | refused text => some (.server text)
  | lost => some .lost

namespace Database

variable {σ : Type} (serve : (r : databasePeer.Request) → σ → databasePeer.Answer r × σ)

/-! ## Statements one after another -/

/-- The state of a database after statements. -/
def stateAfter (s : σ) (statements : List Statement) : σ :=
  statements.foldl (fun s q => (serve (.execute q) s).2) s

/-- The reply to a statement that comes after others. -/
def replyAfter (s : σ) (before : List Statement) (q : Statement) : DatabaseReply :=
  (serve (.execute q) (stateAfter serve s before)).1

/-- No statement fails, one after another. -/
def Succeed (s : σ) (statements : List Statement) : Prop :=
  ∀ before q rest, statements = before ++ q :: rest → (replyAfter serve s before q).fault? = none

/-- A statement fails, and none of those before it does. -/
structure FailsFirst (s : σ) (statements before : List Statement) (q : Statement)
    (fault : DatabaseFault) : Prop where
  /-- where the statement stands -/
  split : ∃ rest, statements = before ++ q :: rest
  /-- those before it -/
  succeed : Succeed serve s before
  /-- the statement itself -/
  fault : (replyAfter serve s before q).fault? = some fault

/-- Statements as a database is asked to execute them. -/
def requests (statements : List Statement) : List databasePeer.Request :=
  statements.map DatabaseRequest.execute

/-- What is sent once a statement of a transaction has failed: a transaction that has begun is rolled back,
unless there is no connection any more. -/
def closing (before : List Statement) : DatabaseReply → List Statement
  | .refused _ => if before.isEmpty then [] else [.rollback]
  | _ => []

variable {serve} {s : σ} {before statements : List Statement} {q : Statement} {fault : DatabaseFault}

theorem stateAfter_append (s : σ) (first second : List Statement) :
    stateAfter serve s (first ++ second) = stateAfter serve (stateAfter serve s first) second :=
  List.foldl_append

theorem requests_append (first second : List Statement) :
    requests (first ++ second) = requests first ++ requests second :=
  List.map_append

theorem execute_mem_requests : DatabaseRequest.execute q ∈ requests statements ↔ q ∈ statements := by
  refine ⟨fun h => ?_, List.mem_map_of_mem⟩
  obtain ⟨q', hmem, heq⟩ := List.mem_map.1 h
  cases heq
  exact hmem

theorem succeed_nil : Succeed serve s [] := fun before q rest h => by
  cases before with
  | nil => cases h
  | cons b before => cases h

theorem succeed_cons : Succeed serve s (q :: statements) ↔
    (serve (.execute q) s).1.fault? = none ∧ Succeed serve (stateAfter serve s [q]) statements := by
  constructor
  · intro h
    refine ⟨h [] q statements rfl, fun before q' rest hsplit => ?_⟩
    exact h (q :: before) q' rest (by rw [hsplit, List.cons_append])
  · rintro ⟨hq, hrest⟩ before q' rest hsplit
    cases before with
    | nil =>
      obtain ⟨rfl, rfl⟩ := List.cons.inj hsplit
      exact hq
    | cons b before =>
      obtain ⟨rfl, rfl⟩ := List.cons.inj hsplit
      exact hrest before q' rest rfl

theorem succeed_append {first second : List Statement} : Succeed serve s (first ++ second) ↔
    Succeed serve s first ∧ Succeed serve (stateAfter serve s first) second := by
  induction first generalizing s with
  | nil => exact (and_iff_right succeed_nil).symm
  | cons q first ih => rw [List.cons_append, succeed_cons, succeed_cons, ih, and_assoc]; rfl

theorem succeed_singleton : Succeed serve s [q] ↔ (serve (.execute q) s).1.fault? = none :=
  succeed_cons.trans (and_iff_left succeed_nil)

/-- Statements that do not all succeed have a first that fails. -/
theorem exists_failsFirst (h : ¬ Succeed serve s statements) :
    ∃ before q fault, FailsFirst serve s statements before q fault := by
  induction statements generalizing s with
  | nil => exact absurd succeed_nil h
  | cons q statements ih =>
    cases hq : (serve (.execute q) s).1.fault? with
    | some fault => exact ⟨[], q, fault, ⟨statements, rfl⟩, succeed_nil, hq⟩
    | none =>
      obtain ⟨before, q', fault, ⟨rest, rfl⟩, hsucceed, hfault⟩ :=
        ih fun hrest => h (succeed_cons.2 ⟨hq, hrest⟩)
      exact ⟨q :: before, q', fault, ⟨rest, rfl⟩, succeed_cons.2 ⟨hq, hsucceed⟩, hfault⟩

theorem FailsFirst.append {first : List Statement} (h : FailsFirst serve s first before q fault)
    (second : List Statement) : FailsFirst serve s (first ++ second) before q fault := by
  obtain ⟨rest, rfl⟩ := h.split
  exact ⟨⟨rest ++ second, List.append_assoc before _ second⟩, h.succeed, h.fault⟩

/-! ## One statement -/

/-- A statement within a transaction that succeeds. -/
theorem run_executeWithin (h : (serve (.execute q) s).1.fault? = none)
    (asked : List databasePeer.Request) :
    (executeWithin q).run.run (Program.recording serve) (s, asked) =
      ⟨.ok (), [], (stateAfter serve s [q], asked ++ requests [q])⟩ := by
  unfold executeWithin
  rw [Program.runExcept_bind]
  refine (Program.run_recording_ask (P := databasePeer) rfl).trans ?_
  cases hreply : (serve (.execute q) s).1 with
  | rows set => rfl
  | refused text => rw [hreply] at h; cases h
  | lost => rw [hreply] at h; cases h

/-- A statement within a transaction that fails: the transaction is over. -/
theorem run_executeWithin_of_fault (h : (serve (.execute q) s).1.fault? = some fault)
    (asked : List databasePeer.Request) :
    let sent := q :: closing [.begin] (serve (.execute q) s).1
    (executeWithin q).run.run (Program.recording serve) (s, asked) =
      ⟨.error (.database fault), [], (stateAfter serve s sent, asked ++ requests sent)⟩ := by
  unfold executeWithin
  rw [Program.runExcept_bind]
  refine (Program.run_recording_ask (P := databasePeer) rfl).trans ?_
  cases hreply : (serve (.execute q) s).1 with
  | rows set => rw [hreply] at h; cases h
  | refused text =>
    rw [hreply] at h
    cases h
    exact congrArg (fun all => Program.Outcome.mk _ _ (_, all)) (List.append_assoc asked _ _)
  | lost =>
    rw [hreply] at h
    cases h
    rfl

/-- The statement that begins a transaction, when it succeeds. -/
theorem run_execute (h : (serve (.execute q) s).1.fault? = none) (asked : List databasePeer.Request) :
    ∃ set, (execute q).run.run (Program.recording serve) (s, asked) =
      ⟨.ok set, [], (stateAfter serve s [q], asked ++ requests [q])⟩ := by
  unfold execute
  rw [Program.runExcept_bind]
  cases hreply : (serve (.execute q) s).1 with
  | rows set =>
    refine ⟨set, (Program.run_recording_ask (P := databasePeer) rfl).trans ?_⟩
    rw [hreply]
    rfl
  | refused text => rw [hreply] at h; cases h
  | lost => rw [hreply] at h; cases h

/-- The statement that begins a transaction, when it fails: nothing has begun. -/
theorem run_execute_of_fault (h : (serve (.execute q) s).1.fault? = some fault)
    (asked : List databasePeer.Request) :
    (execute q).run.run (Program.recording serve) (s, asked) =
      ⟨.error (.database fault), [], (stateAfter serve s [q], asked ++ requests [q])⟩ := by
  unfold execute
  rw [Program.runExcept_bind]
  refine (Program.run_recording_ask (P := databasePeer) rfl).trans ?_
  cases hreply : (serve (.execute q) s).1 with
  | rows set => rw [hreply] at h; cases h
  | refused text => rw [hreply] at h; cases h; rfl
  | lost => rw [hreply] at h; cases h; rfl

/-! ## Statements within a transaction -/

/-- Statements that all succeed. -/
theorem run_forM_executeWithin (h : Succeed serve s statements)
    (asked : List databasePeer.Request) :
    (forM statements executeWithin).run.run (Program.recording serve) (s, asked) =
      ⟨.ok (), [], (stateAfter serve s statements, asked ++ requests statements)⟩ := by
  induction statements generalizing s asked with
  | nil =>
    exact congrArg (fun all => Program.Outcome.mk _ _ (s, all)) (List.append_nil asked).symm
  | cons q statements ih =>
    obtain ⟨hq, hrest⟩ := succeed_cons.1 h
    rw [List.forM_cons, Attempt.run_bind_of_ok (run_executeWithin hq asked), ih hrest,
      List.append_assoc]
    rfl

/-- Statements of which one fails. -/
theorem run_forM_executeWithin_of_fails (h : FailsFirst serve s statements before q fault)
    (asked : List databasePeer.Request) :
    let sent := before ++ q :: closing [.begin] (replyAfter serve s before q)
    (forM statements executeWithin).run.run (Program.recording serve) (s, asked) =
      ⟨.error (.database fault), [], (stateAfter serve s sent, asked ++ requests sent)⟩ := by
  obtain ⟨⟨rest, rfl⟩, hsucceed, hfault⟩ := h
  intro sent
  have := Program.lawfulMonad (P := databasePeer)
  rw [List.forM_append, Attempt.run_bind_of_ok (run_forM_executeWithin hsucceed asked), List.forM_cons,
    Attempt.run_bind_of_error (run_executeWithin_of_fault hfault (asked ++ requests before)),
    requests_append, stateAfter_append, List.append_assoc]
  rfl

/-! ## Whole transactions -/

/-- A transaction is its first statement, and the others with the commit within it. -/
theorem transaction_eq (statements : List Statement) :
    transaction statements = (do
      let _ ← execute .begin
      forM (statements ++ [.commit]) executeWithin) := by
  have := Program.lawfulMonad (P := databasePeer)
  unfold transaction
  refine congrArg _ (funext fun _ => ?_)
  rw [List.forM_append, List.forM_cons, List.forM_nil, bind_pure_unit]
  rfl

/-- A transaction of which all statements succeed. -/
theorem run_transaction (h : Succeed serve s (.begin :: (statements ++ [.commit]))) :
    let script := .begin :: (statements ++ [.commit])
    (transaction statements).run.run (Program.recording serve) (s, []) =
      ⟨.ok (), [], (stateAfter serve s script, requests script)⟩ := by
  obtain ⟨hbegin, hrest⟩ := succeed_cons.1 h
  obtain ⟨set, hset⟩ := run_execute hbegin []
  rw [transaction_eq]
  exact (Attempt.run_bind_of_ok hset _).trans (run_forM_executeWithin hrest _)

/-- A transaction of which a statement fails. -/
theorem run_transaction_of_fails
    (h : FailsFirst serve s (.begin :: (statements ++ [.commit])) before q fault) :
    let sent := before ++ q :: closing before (replyAfter serve s before q)
    (transaction statements).run.run (Program.recording serve) (s, []) =
      ⟨.error (.database fault), [], (stateAfter serve s sent, requests sent)⟩ := by
  obtain ⟨⟨rest, hsplit⟩, hsucceed, hfault⟩ := h
  rw [transaction_eq]
  cases before with
  | nil =>
    obtain ⟨rfl, rfl⟩ := List.cons.inj hsplit
    refine (Attempt.run_bind_of_error (run_execute_of_fault hfault []) _).trans ?_
    cases hreply : replyAfter serve s [] .begin <;> rfl
  | cons b before =>
    obtain ⟨rfl, hrest⟩ := List.cons.inj hsplit
    obtain ⟨hbegin, hbefore⟩ := succeed_cons.1 hsucceed
    obtain ⟨set, hset⟩ := run_execute hbegin []
    have hfails : FailsFirst serve (stateAfter serve s [.begin]) (statements ++ [.commit]) before q fault :=
      ⟨⟨rest, hrest⟩, hbefore, hfault⟩
    exact (Attempt.run_bind_of_ok hset _).trans (run_forM_executeWithin_of_fails hfails _)

/-! ## Recording runs -/

/-- Runs of which every statement succeeds. -/
theorem run_recordRuns {runs : List Run}
    (h : Succeed serve s (.begin :: (runs.map .upsertRun ++ [.commit]))) :
    let script := .begin :: (runs.map .upsertRun ++ [.commit])
    (recordRuns runs).program.run (Program.recording serve) (s, []) =
      ⟨.ok (UInt64.ofNat runs.length), [], (stateAfter serve s script, requests script)⟩ :=
  Attempt.run_bind_of_ok (run_transaction h) _

/-- Runs of which a statement fails. -/
theorem run_recordRuns_of_fails {runs : List Run}
    (h : FailsFirst serve s (.begin :: (runs.map .upsertRun ++ [.commit])) before q fault) :
    let sent := before ++ q :: closing before (replyAfter serve s before q)
    (recordRuns runs).program.run (Program.recording serve) (s, []) =
      ⟨.error (.database fault), [], (stateAfter serve s sent, requests sent)⟩ :=
  Attempt.run_bind_of_error (run_transaction_of_fails h) _

theorem commit_not_mem_closing {reply : DatabaseReply} : Statement.commit ∉ closing before reply := by
  cases reply with
  | refused text => cases before <;> simp [closing]
  | rows set => exact List.not_mem_nil
  | lost => exact List.not_mem_nil

/-- **The commit is sent exactly when the beginning and all upserts succeeded.** -/
theorem commit_sent_iff (runs : List Run) :
    DatabaseRequest.execute .commit ∈
        ((recordRuns runs).program.run (Program.recording serve) (s, [])).state.2 ↔
      Succeed serve s (.begin :: runs.map .upsertRun) := by
  constructor
  · intro hsent
    refine Classical.byContradiction fun hfails => ?_
    obtain ⟨before, q, fault, hfirst⟩ := exists_failsFirst hfails
    obtain ⟨rest, hsplit⟩ := hfirst.split
    rw [run_recordRuns_of_fails (hfirst.append [.commit])] at hsent
    have hmem := execute_mem_requests.1 hsent
    -- what was sent is a part of the beginning and the upserts, and perhaps a rollback
    rw [List.append_cons, List.mem_append] at hmem
    obtain hmem | hmem := hmem
    · have hcommit : Statement.commit ∈ Statement.begin :: runs.map .upsertRun := by
        rw [hsplit, List.append_cons]
        exact List.mem_append_left _ hmem
      simp at hcommit
    · exact commit_not_mem_closing hmem
  · intro hsucceed
    cases hcommit : (replyAfter serve s (.begin :: runs.map .upsertRun) .commit).fault? with
    | none =>
      rw [run_recordRuns (succeed_append.2 ⟨hsucceed, succeed_singleton.2 hcommit⟩)]
      exact execute_mem_requests.2 (by simp)
    | some fault =>
      rw [run_recordRuns_of_fails ⟨⟨[], rfl⟩, hsucceed, hcommit⟩]
      exact execute_mem_requests.2 (by simp)

/-- **Runs are recorded all or none.** For a database that replies to each statement as it may. An upsert
carries the eight fields of its run in the order of the columns. If no statement fails, the transaction
begins, the runs are upserted in order and it is committed; the result is how many there were. Otherwise
nothing is sent after the first statement that fails, but that a transaction which has begun is rolled back
while there is a connection, and the failure of that statement is the result. So the commit is sent exactly
when all before it succeeded, and there is a result exactly when it has succeeded too. -/
theorem recordRuns_allOrNothing (serve : (r : databasePeer.Request) → σ → databasePeer.Answer r × σ) (s : σ)
    (runs : List Run) :
    let upserts := Statement.begin :: runs.map .upsertRun
    let script := upserts ++ [.commit]
    let leaves := (recordRuns runs).program.run (Program.recording serve) (s, [])
    (∀ r, (Statement.upsertRun r).parameters = [.text r.deploymentId, .text r.flowRunId, .text r.name,
      .time r.startTime.microseconds, .time r.expectedStartTime.microseconds, .float r.totalRunTime,
      .text r.status.name, .text r.stateName]) ∧
    (Succeed serve s script → leaves =
      ⟨.ok (UInt64.ofNat runs.length), [], (stateAfter serve s script, requests script)⟩) ∧
    (∀ before q fault, FailsFirst serve s script before q fault →
      let sent := before ++ q :: closing before (replyAfter serve s before q)
      leaves = ⟨.error (.database fault), [], (stateAfter serve s sent, requests sent)⟩) ∧
    (Succeed serve s script ∨ ∃ before q fault, FailsFirst serve s script before q fault) ∧
    (DatabaseRequest.execute .commit ∈ leaves.state.2 ↔ Succeed serve s upserts) ∧
    ((∃ n, leaves.result = .ok n) ↔ DatabaseRequest.execute .commit ∈ leaves.state.2 ∧
      (replyAfter serve s upserts .commit).fault? = none) := by
  intro upserts script leaves
  refine ⟨fun r => rfl, run_recordRuns, fun before q fault => run_recordRuns_of_fails,
    Classical.or_iff_not_imp_left.2 exists_failsFirst, commit_sent_iff runs, ?_⟩
  · have hscript : Succeed serve s script ↔
        Succeed serve s upserts ∧ (replyAfter serve s upserts .commit).fault? = none :=
      succeed_append.trans (and_congr_right fun _ => succeed_singleton)
    rw [commit_sent_iff, ← hscript]
    constructor
    · rintro ⟨n, hn⟩
      refine Classical.byContradiction fun h => ?_
      obtain ⟨before, q, fault, hfails⟩ := exists_failsFirst h
      cases (congrArg (·.result) (run_recordRuns_of_fails hfails)).symm.trans hn
    · exact fun h => ⟨_, congrArg (·.result) (run_recordRuns h)⟩

/-- The database refuses the second of two runs: what was begun is rolled back, and its words are the
result. -/
theorem recordRuns_allOrNothing_refused :
    let serve (r : databasePeer.Request) (n : Nat) : databasePeer.Answer r × Nat :=
      match r with
      | .connect _ => (.ok (), n)
      | .hasTables => (.ok true, n)
      | .execute _ => (if n = 2 then .refused "deadlock detected" else .rows ⟨[], []⟩, n + 1)
    let first : Run := { (default : Run) with flowRunId := "a" }
    let second : Run := { (default : Run) with flowRunId := "b" }
    let leaves := (recordRuns [first, second]).program.run (Program.recording serve) (0, [])
    leaves.result = .error (.database (.server "deadlock detected")) ∧
      leaves.state.2 = requests [.begin, .upsertRun first, .upsertRun second, .rollback] := by
  intro serve first second leaves
  obtain ⟨_, _, hfails, _⟩ := recordRuns_allOrNothing serve 0 [first, second]
  have hbefore : Succeed serve 0 [.begin, .upsertRun first] :=
    succeed_cons.2 ⟨rfl, succeed_singleton.2 rfl⟩
  have hleaves := hfails [.begin, .upsertRun first] (.upsertRun second) (.server "deadlock detected")
    ⟨⟨[.commit], rfl⟩, hbefore, rfl⟩
  exact ⟨congrArg (·.result) hleaves, congrArg (·.state.2) hleaves⟩

end Database

end FlowRuns
