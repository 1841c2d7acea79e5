import FlowRuns.Event
import FlowRuns.Error

/-!
# Programs that talk to collaborators

The operations of this library read histories, store dataflows, fetch log pages, exchange requests
with a proxy and statements with a database. None of them is tied to one such collaborator: an
operation is a *program* that puts requests and goes on with the answers, whatever they are.

* `Peer` — a kind of collaborator: its requests, and the answers that each may get.
* `Program` — a tree: it is done, or it puts a request and continues with the answer, or it
  reports an event and continues. Nothing in it names who answers.
* `Program.run` — runs a program against a server with a state of its own.
* `Program.through` — answers the requests to one collaborator by a program over another.
* `Attempt` — programs that may end early with an error.
* `Fallible` — programs that may also end early by giving up.
* `InPlace` — programs that also write to a place of their caller's, which keeps what was written
  however they end.
-/

namespace FlowRuns

/-- A kind of collaborator. -/
structure Peer where
  /-- what can be asked of it -/
  Request : Type
  /-- what a request may be answered with -/
  Answer : Request → Type

/-- Two collaborators as one. -/
def Peer.both (P Q : Peer) : Peer where
  Request := P.Request ⊕ Q.Request
  Answer
    | .inl r => P.Answer r
    | .inr r => Q.Answer r

/-- A program over a collaborator. -/
inductive Program (P : Peer) (α : Type) : Type where
  /-- it is done, with a result -/
  | done (result : α)
  /-- it puts a request and goes on with the answer -/
  | ask (request : P.Request) (next : P.Answer request → Program P α)
  /-- it reports an event and goes on -/
  | report (event : Event) (next : Program P α)

namespace Program

variable {P Q : Peer} {α β γ : Type}

/-! ## Sequencing -/

/-- Goes on with `f` where a program is done. -/
protected def bind : Program P α → (α → Program P β) → Program P β
  | done a, f => f a
  | ask r k, f => ask r fun a => (k a).bind f
  | report e k, f => report e (k.bind f)

instance : Monad (Program P) where
  pure := done
  bind := Program.bind

@[simp] theorem pure_eq (a : α) : (pure a : Program P α) = done a := rfl

@[simp] theorem bind_eq (m : Program P α) (f : α → Program P β) : m >>= f = m.bind f := rfl

@[simp] theorem done_bind (a : α) (f : α → Program P β) : (done a).bind f = f a := rfl

@[simp] theorem ask_bind (r : P.Request) (k : P.Answer r → Program P α) (f : α → Program P β) :
    (ask r k).bind f = ask r fun a => (k a).bind f := rfl

@[simp] theorem report_bind (e : Event) (k : Program P α) (f : α → Program P β) :
    (report e k).bind f = report e (k.bind f) := rfl

@[simp] theorem bind_done (m : Program P α) : m.bind done = m := by
  induction m with
  | done a => rfl
  | ask r k ih => exact congrArg (ask r) (funext ih)
  | report e k ih => exact congrArg (report e) ih

theorem bind_assoc (m : Program P α) (f : α → Program P β) (g : β → Program P γ) :
    (m.bind f).bind g = m.bind fun a => (f a).bind g := by
  induction m with
  | done a => rfl
  | ask r k ih => exact congrArg (ask r) (funext ih)
  | report e k ih => exact congrArg (report e) ih

/-- Puts one request. -/
def put (r : P.Request) : Program P (P.Answer r) := ask r done

/-- Reports one event. -/
def note (e : Event) : Program P Unit := report e (done ())

/-! ## Running -/

/-- What a run leaves: its result, the events in order, and the state of the server. -/
structure Outcome (σ α : Type) where
  /-- the result -/
  result : α
  /-- the events that were reported -/
  events : List Event
  /-- the state of the server afterwards -/
  state : σ

/-- Runs a program against a server, which answers each request and may change its state. -/
def run {σ : Type} (serve : (r : P.Request) → σ → P.Answer r × σ) :
    Program P α → σ → Outcome σ α
  | done a, s => ⟨a, [], s⟩
  | ask r k, s => run serve (k (serve r s).1) (serve r s).2
  | report e k, s =>
    let rest := run serve k s
    { rest with events := e :: rest.events }

section

variable {σ : Type} (serve : (r : P.Request) → σ → P.Answer r × σ)

@[simp] theorem run_done (a : α) (s : σ) : run serve (done a) s = ⟨a, [], s⟩ := rfl

@[simp] theorem run_ask (r : P.Request) (k : P.Answer r → Program P α) (s : σ) :
    run serve (ask r k) s = run serve (k (serve r s).1) (serve r s).2 := rfl

@[simp] theorem run_report (e : Event) (k : Program P α) (s : σ) :
    run serve (report e k) s =
      ⟨(run serve k s).result, e :: (run serve k s).events, (run serve k s).state⟩ := rfl

/-- A run of a sequence is a run of its first part followed by a run of the rest. -/
theorem run_bind (m : Program P α) (f : α → Program P β) (s : σ) :
    run serve (m.bind f) s =
      let first := run serve m s
      let rest := run serve (f first.result) first.state
      ⟨rest.result, first.events ++ rest.events, rest.state⟩ := by
  induction m generalizing s with
  | done a => rfl
  | ask r k ih => exact ih _ _
  | report e k ih => simp [ih]

end

/-- A server that also keeps the requests it was asked, in order. -/
def recording {σ : Type} (serve : (r : P.Request) → σ → P.Answer r × σ) (r : P.Request)
    (s : σ × List P.Request) : P.Answer r × (σ × List P.Request) :=
  ((serve r s.1).1, (serve r s.1).2, s.2 ++ [r])

/-! ## Answering one collaborator by another -/

/-- The program in which each request is answered by a program over another collaborator. -/
def through (answer : (r : P.Request) → Program Q (P.Answer r)) : Program P α → Program Q α
  | done a => done a
  | ask r k => (answer r).bind fun a => (k a).through answer
  | report e k => report e (k.through answer)

@[simp] theorem through_done (answer : (r : P.Request) → Program Q (P.Answer r)) (a : α) :
    (done a).through answer = done a := rfl

/-- Answering distributes over sequencing. -/
theorem through_bind (answer : (r : P.Request) → Program Q (P.Answer r)) (m : Program P α)
    (f : α → Program P β) :
    (m.bind f).through answer = (m.through answer).bind fun a => (f a).through answer := by
  induction m with
  | done a => rfl
  | ask r k ih =>
    simp only [ask_bind, through, bind_assoc]
    exact congrArg _ (funext ih)
  | report e k ih =>
    simp only [report_bind, through]
    exact congrArg _ ih

/-- A program over the first of two collaborators. -/
def onFirst : Program P α → Program (P.both Q) α :=
  through fun r => put (P := P.both Q) (.inl r)

/-- A program over the second of two collaborators. -/
def onSecond : Program Q α → Program (P.both Q) α :=
  through fun r => put (P := P.both Q) (.inr r)

/-! ## Steps -/

/-- The program after the events that it reports before its next request. -/
def settled : Program P α → Program P α
  | report _ k => k.settled
  | m => m

/-- One step: the next request is answered. -/
def step {σ : Type} (serve : (r : P.Request) → σ → P.Answer r × σ) (m : Program P α) (s : σ) :
    Program P α × σ :=
  match m.settled with
  | ask r k => (k (serve r s).1, (serve r s).2)
  | other => (other, s)

end Program

/-! ## Ending early -/

/-- Programs that may end early with an error. -/
abbrev Attempt (P : Peer) (α : Type) := ExceptT FlowError (Program P) α

namespace Attempt

variable {P : Peer} {α : Type}

/-- Ends with an error. -/
def fail (e : FlowError) : Attempt P α := throw e

/-- Goes on with a result, or ends with an error. -/
def ofExcept : Except FlowError α → Attempt P α
  | .ok a => pure a
  | .error e => fail e

/-- Puts one request and gives its answer. -/
def ask (r : P.Request) : Attempt P (P.Answer r) :=
  ExceptT.mk (.ask r fun a => .done (.ok a))

/-- Reports one event. -/
def note (e : Event) : Attempt P Unit := ExceptT.mk (.report e (.done (.ok ())))

/-- The program with its error as a part of the result. -/
def program (m : Attempt P α) : Program P (Except FlowError α) := m.run

end Attempt

/-- Why an operation ends without a result. -/
inductive Failure where
  /-- with an error -/
  | error (e : FlowError)
  /-- by giving up: something that was taken for granted does not hold -/
  | panic
  deriving Inhabited

/-- Programs that may end early. -/
abbrev Fallible (P : Peer) (α : Type) := ExceptT Failure (Program P) α

namespace Fallible

variable {P : Peer} {α : Type}

/-- Ends with an error. -/
def fail (e : FlowError) : Fallible P α := throw (.error e)

/-- Goes on with a result, or ends with an error. -/
def ofExcept : Except FlowError α → Fallible P α
  | .ok a => pure a
  | .error e => fail e

/-- Goes on with a value, or gives up. -/
def orPanic : Option α → Fallible P α
  | some a => pure a
  | none => throw .panic

/-- Puts one request and gives its answer. -/
def ask (r : P.Request) : Fallible P (P.Answer r) :=
  ExceptT.mk (.ask r fun a => .done (.ok a))

/-- Reports one event. -/
def note (e : Event) : Fallible P Unit := ExceptT.mk (.report e (.done (.ok ())))

end Fallible

/-! ## Writing to a place of the caller's -/

/-- Programs that may end early and that write to a place of their caller's. The place outlives the
program: what was written is there when it ends early too. -/
abbrev InPlace (P : Peer) (σ α : Type) := ExceptT Failure (StateT σ (Program P)) α

namespace InPlace

variable {P : Peer} {σ α : Type}

/-- A program that leaves the place alone. -/
def ofFallible (m : Fallible P α) : InPlace P σ α := ExceptT.mk (StateT.lift m.run)

instance : MonadLift (Fallible P) (InPlace P σ) := ⟨ofFallible⟩

/-- Goes on with a result, or ends with an error. -/
def ofExcept (r : Except FlowError α) : InPlace P σ α := ofFallible (Fallible.ofExcept r)

/-- Goes on with a value, or gives up. -/
def orPanic (a : Option α) : InPlace P σ α := ofFallible (Fallible.orPanic a)

/-- Reports one event. -/
def note (e : Event) : InPlace P σ Unit := ofFallible (Fallible.note e)

/-- The program on a place that holds `s`: its result, and what the place holds afterwards. -/
def program (m : InPlace P σ α) (s : σ) : Program P (Except Failure α × σ) := m.run.run s

/-- The program whose place is a value that it hands back with its result. -/
def toFallible (m : InPlace P σ α) (s : σ) : Fallible P (σ × α) :=
  ExceptT.mk ((m.program s).bind fun (result, after) => .done (result.map fun a => (after, a)))

end InPlace

end FlowRuns
