import FlowRuns.Cli.Args
import FlowRuns.Database.Stores
import FlowRuns.Logging
import FlowRuns.Proxy.Client
import FlowRuns.Settings.Load

/-!
# Running a command

A command loads the settings, begins its log, reaches the database or the proxy, and gives the lines
that it prints, or the reason why it failed.

* `Cli.perform` — a command as a program over the database and the proxy.
* `Cli.Report` — what is seen of a run from outside: exit code, printed lines, log, error.
* `Cli.reportOf`, `Cli.reportOfStop` — the report of a run, and of words that ask for nothing to be
  done.
-/

namespace FlowRuns.Cli

/-- The collaborators of a command: the database and the proxy. -/
abbrev peers : Peer := databasePeer.both httpPeer

/-- Why a command failed. -/
inductive Fault where
  /-- the settings cannot be loaded -/
  | settings (failure : Failure)
  /-- the database cannot be reached -/
  | connecting (e : FlowError)
  /-- the tables cannot be made -/
  | migrating (e : FlowError)
  /-- the work itself failed -/
  | working (failure : Failure)
  deriving Inhabited

/-- The wording of a fault; none for giving up. -/
def Fault.message? : Fault → Option String
  | settings (.error _) => some "failed to load configuration"
  | settings .panic => none
  | connecting _ => some "failed to connect to database"
  | migrating _ => some "failed to run migrations"
  | working (.error e) => some e.message
  | working .panic => none

/-- Commands at work. -/
abbrev Work (α : Type) := ExceptT Fault (Program peers) α

namespace Work

variable {α : Type}

/-- Reports one event. -/
def note (e : Event) : Work Unit := ExceptT.mk (.report e (.done (.ok ())))

/-- Goes on with a result, or fails. -/
def ofExcept {ε : Type} (fault : ε → Fault) : Except ε α → Work α
  | .ok a => pure a
  | .error e => throw (fault e)

/-- Work at the database. -/
def atDatabase (fault : FlowError → Fault) (m : Attempt databasePeer α) : Work α :=
  ExceptT.mk (m.program.onFirst.bind fun r => .done (r.mapError fault))

/-- Work whose requests are answered by the database and the proxy. -/
def answeredBy {P : Peer} (answer : (r : P.Request) → Program peers (P.Answer r))
    (m : Fallible P α) : Work α :=
  ExceptT.mk ((m.run.through answer).bind fun r => .done (r.mapError .working))

end Work

/-! ## The commands -/

/-- The database with its tables. -/
def openDatabase (s : Settings) : Work Unit := do
  Work.atDatabase .connecting (Database.connect s.database)
  Work.atDatabase .migrating Database.migrate

/-- A client of the proxy. -/
def openClient (s : Settings) : Work ProxyClient := do
  let client ← Work.ofExcept (fun e => .working (.error e)) (ProxyClient.create s.proxy)
  Work.note client.created
  return client

/-- The database as both stores. -/
def answerStores (r : storesPeer.Request) : Program peers (storesPeer.Answer r) :=
  (Database.serveStores r).onFirst

/-- The proxy as the source of flow runs, the database as the history. -/
def answerSync (client : ProxyClient) : (r : syncPeer.Request) → Program peers (syncPeer.Answer r)
  | .inl r => (client.serveFlowRuns r).onSecond
  | .inr r => (Database.serveHistory r).onFirst

/-- The proxy as the source of log pages. -/
def answerPages (client : ProxyClient) (r : logPeer.Request) :
    Program peers (logPeer.Answer r) :=
  (client.servePages r).onSecond

/-- What a command does once the settings are loaded: the lines that it prints. -/
def work (s : Settings) : Command → Work (List String)
  | .compute deploymentId limit statuses => do
    openDatabase s
    let options : StatsOptions :=
      ⟨limit.getD s.runStats.historyLimit,
        if statuses.isEmpty then s.runStats.statuses else statuses⟩
    let (_, stats) ←
      Work.answeredBy answerStores (StatsService.computeFor deploymentId options)
    return stats.lines
  | .sync deploymentId limit => do
    openDatabase s
    let client ← openClient s
    let recorded ← Work.answeredBy (answerSync client) (syncDeployment deploymentId limit)
    return ["recorded " ++ toString recorded.toNat ++ " flow runs for " ++ deploymentId]
  | .logs flowRunId taskRunId pageSize => do
    let client ← openClient s
    Work.answeredBy (answerPages client)
      (Logs.fetchAll flowRunId taskRunId (pageSize.getD s.logs.pageSize))

/-- **A command** in given surroundings. -/
def perform (sur : Surroundings) (i : Invocation) : Work (List String) := do
  let s ← Work.ofExcept .settings (sur.settings i.config)
  Work.note (sur.loaded s)
  Work.note (Logging.initialized sur.environment s.logging)
  work s i.command

/-! ## What is seen -/

/-- What is seen of a run from outside. -/
structure Report where
  /-- the exit code -/
  exit : Nat
  /-- the lines that are printed -/
  printed : List String
  /-- the events that are written to the log -/
  log : List Event
  /-- the first line that is said in a run that fails -/
  error : Option String
  deriving Inhabited

/-- The exit code of a run that failed. -/
def failureCode : Nat := 1

/-- The exit code of words that make no command. -/
def misuseCode : Nat := 2

/-- The exit code of a run that gave up. -/
def panicCode : Nat := 134

/-- The report of words that ask for nothing to be done. The text of help, and what is said about
misuse, are not part of it. -/
def reportOfStop : Stop → Report
  | .help => ⟨0, [], [], none⟩
  | .version => ⟨0, ["dataflow-stats " ++ version], [], none⟩
  | .misuse => ⟨misuseCode, [], [], none⟩

/-- The events from the beginning of the log on. -/
def sinceInitialized (events : List Event) : List Event :=
  events.dropWhile fun
    | .loggingInitialized .. => false
    | _ => true

/-- The lines that are printed for a text. -/
def printedLines (s : String) : List String :=
  (Text.Form.parts '\n' s.toList).map String.ofList

/-- The first line of a text. -/
def firstLine (s : String) : String := String.ofList (s.toList.takeWhile (· ≠ '\n'))

/-- The events that are written to the log. -/
def written (sur : Surroundings) (i : Invocation) (events : List Event) : List Event :=
  match sur.settings i.config with
  | .ok s =>
    if s.logging.json then
      (sinceInitialized events).filter (Logging.filter sur.environment s.logging).admits
    else []
  | .error _ => []

/-- What is said while the log begins. -/
def complaints (sur : Surroundings) (i : Invocation) : List String :=
  match sur.settings i.config with
  | .ok s => Logging.complaints sur.environment s.logging
  | .error _ => []

/-- The report of a run in which these events were reported. -/
def reportOf (sur : Surroundings) (i : Invocation) (events : List Event)
    (result : Except Fault (List String)) : Report :=
  let log := written sur i events
  match result with
  | .ok printed => ⟨0, printed.flatMap printedLines, log, none⟩
  | .error fault =>
    match fault.message? with
    | some text =>
      let said := complaints sur i ++ ["Error: " ++ text]
      ⟨failureCode, [], log, said.head?.map firstLine⟩
    | none => ⟨panicCode, [], log, none⟩

/-- **The report** of the words of a command line, against a database and a proxy that answer in a
certain way. -/
def report {σ : Type} (serve : (r : peers.Request) → σ → peers.Answer r × σ)
    (sur : Surroundings) (words : List String) (s : σ) : Report × σ :=
  match Invocation.ofWords words with
  | .error stop => (reportOfStop stop, s)
  | .ok i =>
    let o := (perform sur i).run.run serve s
    (reportOf sur i o.events o.result, o.state)

end FlowRuns.Cli
