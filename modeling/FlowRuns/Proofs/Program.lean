import FlowRuns.Program

/-!
# Running programs that end early

What a program that may end early is, once its layers are taken apart: the tree of its requests, with
the ways to end it at the leaves. A run against a server then goes down that tree.

* `Program.runExcept_bind`, `InPlace.program_bind` — a sequence goes on where its first part has a result,
  and ends where that has ended early.
* `Program.run_of_alike` — servers that cannot be told apart leave the same.
* `Program.serveBoth`, `Program.answering` — two servers as one, and a server that runs programs.
* `Program.Asks` — what a program can ask for at all.
* `InPlace.program_lift` — a step that leaves the place alone keeps what it holds.
-/

namespace FlowRuns

variable {P : Peer} {α β σ : Type}

/-- A request and its answer. -/
theorem Program.run_ask_of_answer {serve : (r : P.Request) → σ → P.Answer r × σ} {r : P.Request}
    {next : P.Answer r → Program P α} {s s' : σ} {a : P.Answer r} (h : serve r s = (a, s')) :
    Program.run serve (.ask r next) s = Program.run serve (next a) s' := by
  rw [run_ask, h]

/-- A request to a server that keeps what it is asked. -/
theorem Program.run_recording_ask {serve : (r : P.Request) → σ → P.Answer r × σ} {r : P.Request}
    {next : P.Answer r → Program P α} {s s' : σ} {asked : List P.Request} {a : P.Answer r}
    (h : serve r s = (a, s')) :
    Program.run (recording serve) (.ask r next) (s, asked) =
      Program.run (recording serve) (next a) (s', asked ++ [r]) := by
  simp only [run_ask, recording, h]

namespace Program

/-- The laws of sequencing; no instance, so that they do not change what `simp` makes of a program. -/
theorem lawfulMonad : LawfulMonad (Program P) :=
  LawfulMonad.mk' _ bind_done (fun _ _ => rfl) bind_assoc

/-- A program whose result is put into another form when it is done. -/
theorem run_bind_done (serve : (r : P.Request) → σ → P.Answer r × σ) (m : Program P α) (f : α → β)
    (s : σ) : (m.bind fun a => done (f a)).run serve s =
      ⟨f (m.run serve s).result, (m.run serve s).events, (m.run serve s).state⟩ := by
  rw [run_bind]
  exact congrArg (Outcome.mk _ · _) (List.append_nil _)

/-! ## Runs against several servers -/

section Servers

variable {Q : Peer} {τ : Type}

/-- Two servers as one, each with a state of its own. -/
def serveBoth (serveP : (r : P.Request) → σ → P.Answer r × σ)
    (serveQ : (r : Q.Request) → τ → Q.Answer r × τ) :
    (r : (P.both Q).Request) → σ × τ → (P.both Q).Answer r × (σ × τ)
  | .inl r, s => ((serveP r s.1).1, (serveP r s.1).2, s.2)
  | .inr r, s => ((serveQ r s.2).1, s.1, (serveQ r s.2).2)

/-- A server that answers each request by running a program against another server. -/
def answering (answer : (r : P.Request) → Program Q (P.Answer r))
    (serve : (r : Q.Request) → τ → Q.Answer r × τ) (r : P.Request) (s : τ) : P.Answer r × τ :=
  (((answer r).run serve s).result, ((answer r).run serve s).state)

/-- **Servers that cannot be told apart**: in states that belong together they give the same answer and
go on to states that belong together. A run leaves the same against both. -/
theorem run_of_alike {serve : (r : P.Request) → σ → P.Answer r × σ}
    {serve' : (r : P.Request) → τ → P.Answer r × τ} {Together : σ → τ → Prop}
    (halike : ∀ r s t, Together s t →
      (serve r s).1 = (serve' r t).1 ∧ Together (serve r s).2 (serve' r t).2)
    (m : Program P α) {s : σ} {t : τ} (h : Together s t) :
    (m.run serve s).result = (m.run serve' t).result ∧
      (m.run serve s).events = (m.run serve' t).events ∧
      Together (m.run serve s).state (m.run serve' t).state := by
  induction m generalizing s t with
  | done a => exact ⟨rfl, rfl, h⟩
  | ask r next ih =>
    obtain ⟨hanswer, hstate⟩ := halike r s t h
    rw [run_ask, run_ask, ← hanswer]
    exact ih _ hstate
  | report e next ih =>
    obtain ⟨hresult, hevents, hstate⟩ := ih h
    exact ⟨hresult, congrArg (e :: ·) hevents, hstate⟩

end Servers

/-! ## Requests -/

/-- With some answers, the program puts a request. -/
inductive Asks (r : P.Request) : Program P α → Prop where
  /-- the request is put at once -/
  | now {next : P.Answer r → Program P α} : Asks r (ask r next)
  /-- the request is put after the answer to another one -/
  | later {r' : P.Request} {next : P.Answer r' → Program P α} (a : P.Answer r')
      (h : Asks r (next a)) : Asks r (ask r' next)
  /-- the request is put after a report -/
  | reported {e : Event} {next : Program P α} (h : Asks r next) : Asks r (report e next)

theorem not_asks_done {r : P.Request} {a : α} : ¬ (done a : Program P α).Asks r := nofun

theorem asks_report_iff {r : P.Request} {e : Event} {m : Program P α} :
    (report e m).Asks r ↔ m.Asks r := ⟨fun | .reported h => h, .reported⟩

/-- What a sequence asks for, one of its parts asks for. -/
theorem Asks.of_bind {r : P.Request} {m : Program P α} {f : α → Program P β}
    (h : (m.bind f).Asks r) : m.Asks r ∨ ∃ a, (f a).Asks r := by
  induction m with
  | done a => exact .inr ⟨a, h⟩
  | ask r' next ih =>
    rw [ask_bind] at h
    cases h with
    | now => exact .inl .now
    | later a ha => exact (ih a ha).imp_left (.later a)
  | report e next ih => exact (ih (asks_report_iff.1 h)).imp_left .reported

/-- What a server was asked in a run, it had been asked before or the program asks for. -/
theorem Asks.of_mem_run {serve : (r : P.Request) → σ → P.Answer r × σ} {m : Program P α} {s : σ}
    {asked : List P.Request} {r : P.Request}
    (h : r ∈ (m.run (recording serve) (s, asked)).state.2) : r ∈ asked ∨ m.Asks r := by
  induction m generalizing s asked with
  | done a => exact .inl h
  | ask r' next ih =>
    obtain hasked | hnext := ih _ h
    · rw [List.mem_append, List.mem_singleton] at hasked
      exact hasked.imp_right fun heq => by subst heq; exact .now
    · exact .inr (.later _ hnext)
  | report e next ih => exact (ih h).imp_right .reported

end Program

/-- A sequence of two parts that may end early, as a tree. -/
theorem Program.runExcept_bind {ε : Type} (m : ExceptT ε (Program P) α)
    (f : α → ExceptT ε (Program P) β) :
    (m >>= f).run = m.run.bind fun
      | .ok a => (f a).run
      | .error e => .done (.error e) := by
  rw [ExceptT.run_bind, Program.bind_eq]
  congr 1
  funext r
  cases r with
  | ok a => rfl
  | error e => rfl

/-- A sequence whose first part has a result goes on from there. -/
theorem Attempt.run_bind_of_ok {serve : (r : P.Request) → σ → P.Answer r × σ} {m : Attempt P α}
    {s s' : σ} {a : α} (h : m.run.run serve s = ⟨.ok a, [], s'⟩) (f : α → Attempt P β) :
    (m >>= f).run.run serve s = (f a).run.run serve s' := by
  rw [Program.runExcept_bind, Program.run_bind, h]
  rfl

/-- A sequence whose first part has ended early is over. -/
theorem Attempt.run_bind_of_error {serve : (r : P.Request) → σ → P.Answer r × σ} {m : Attempt P α}
    {s s' : σ} {e : FlowError} (h : m.run.run serve s = ⟨.error e, [], s'⟩) (f : α → Attempt P β) :
    (m >>= f).run.run serve s = ⟨.error e, [], s'⟩ := by
  rw [Program.runExcept_bind, Program.run_bind, h]
  rfl

/-- A step that passes is left behind. -/
theorem Attempt.run_ofExcept_ok_bind (a : α) (f : α → Attempt P β) :
    (Attempt.ofExcept (.ok a) >>= f).run = (f a).run := by
  rw [Program.runExcept_bind]
  rfl

namespace Fallible

/-- A step that passes is left behind. -/
theorem run_ofExcept_ok_bind (a : α) (f : α → Fallible P β) :
    (ofExcept (.ok a) >>= f).run = (f a).run := by
  rw [Program.runExcept_bind]
  rfl

/-- A step that does not pass is all that there is. -/
theorem run_ofExcept_error_bind (e : FlowError) (f : α → Fallible P β) :
    (ofExcept (.error e) >>= f).run = .done (.error (.error e)) := by
  rw [Program.runExcept_bind]
  rfl

/-- A request whose answer may be an error, as a tree. -/
theorem run_ask_bind (r : P.Request) (f : P.Answer r → Except FlowError α) :
    (do Fallible.ofExcept (f (← Fallible.ask r)) : Fallible P α).run =
      .ask r fun a => .done ((f a).mapError .error) := by
  rw [Program.runExcept_bind]
  refine congrArg (Program.ask r) (funext fun a => ?_)
  change (ofExcept (f a) : Fallible P α).run = _
  cases f a with
  | ok b => rfl
  | error e => rfl

end Fallible

namespace InPlace

/-- A sequence of two parts on a place, as a tree. -/
theorem program_bind (m : InPlace P σ α) (f : α → InPlace P σ β) (s : σ) :
    (m >>= f).program s = (m.program s).bind fun
      | (.ok a, after) => (f a).program after
      | (.error e, after) => .done (.error e, after) := by
  unfold program
  rw [ExceptT.run_bind, StateT.run_bind, Program.bind_eq]
  congr 1
  funext ⟨r, after⟩
  cases r with
  | ok a => rfl
  | error e => rfl

@[simp] theorem program_pure (a : α) (s : σ) :
    (pure a : InPlace P σ α).program s = .done (.ok a, s) := rfl

@[simp] theorem program_get (s : σ) : (get : InPlace P σ σ).program s = .done (.ok s, s) := rfl

theorem program_lift (m : Fallible P α) (s : σ) :
    (liftM m : InPlace P σ α).program s = m.run.bind fun r => .done (r, s) := rfl

@[simp] theorem program_ofExcept_ok (a : α) (s : σ) :
    (ofExcept (.ok a) : InPlace P σ α).program s = .done (.ok a, s) := rfl

@[simp] theorem program_ofExcept_error (e : FlowError) (s : σ) :
    (ofExcept (.error e) : InPlace P σ α).program s = .done (.error (.error e), s) := rfl

@[simp] theorem program_orPanic_some (a : α) (s : σ) :
    (orPanic (some a) : InPlace P σ α).program s = .done (.ok a, s) := rfl

@[simp] theorem program_note (e : Event) (s : σ) :
    (note e : InPlace P σ Unit).program s = .report e (.done (.ok (), s)) := rfl

/-- A run that hands the place back with its result is a run in the place. -/
theorem run_toFallible {τ : Type} (serve : (r : P.Request) → τ → P.Answer r × τ) (m : InPlace P σ α)
    (place : σ) (s : τ) :
    let inPlace := (m.program place).run serve s
    (m.toFallible place).run.run serve s =
      ⟨inPlace.result.1.map fun a => (inPlace.result.2, a), inPlace.events, inPlace.state⟩ := by
  intro inPlace
  exact Program.run_bind_done serve (m.program place) _ s

end InPlace

end FlowRuns
