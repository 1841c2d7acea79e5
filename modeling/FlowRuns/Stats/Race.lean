import FlowRuns.Session

/-!
# Computations that race

Several computations of statistics run at once on the same stores while runs are recorded. A
computation moves by one request at a time — it looks up its dataflow, asks for the runs, saves —
and any other may move in between; a batch of runs is recorded in one move.

* `Race` — the computations under way, and the stores.
* `Race.move`, `Race.after` — one move, and a sequence of moves in any order.
* `Race.result?` — what a computation has come to, once it has.
-/

namespace FlowRuns

/-- A computation under way. -/
abbrev RacingCall := Program storesPeer (Except Failure (Dataflow × RunTimeStats))

/-- Computations under way on the same stores. -/
structure Race where
  /-- the computations -/
  calls : List RacingCall
  /-- the stores -/
  stores : Stores

/-- One move of a race. -/
inductive RaceMove where
  /-- a computation has its next request answered -/
  | advance (index : Nat)
  /-- runs are recorded -/
  | record (runs : List Run)

namespace Race

/-- Computations for one deployment at their start, each with options of its own. -/
def start (deploymentId : String) (options : List StatsOptions) (s : Stores) : Race :=
  ⟨options.map fun o => (StatsService.computeFor deploymentId o).run, s⟩

/-- One move. A computation that is done stays as it is. -/
def move (r : Race) : RaceMove → Race
  | .advance i =>
    match r.calls[i]? with
    | none => r
    | some call =>
      let (call, stores) := call.step Stores.serve r.stores
      ⟨r.calls.set i call, stores⟩
  | .record runs => { r with stores := (r.stores.serveHistory (.record runs)).2 }

/-- The race after a sequence of moves. -/
def after (r : Race) (moves : List RaceMove) : Race := moves.foldl move r

/-- The result of a computation, if it is done. -/
def result? (r : Race) (index : Nat) : Option (Except Failure (Dataflow × RunTimeStats)) :=
  match r.calls[index]? with
  | some call =>
    match call.settled with
    | .done result => some result
    | _ => none
  | none => none

end Race

end FlowRuns
