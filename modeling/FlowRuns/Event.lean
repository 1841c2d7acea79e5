import FlowRuns.Stats.Basic

/-!
# Events

What the program reports of its work while it works. An event has a level, a place it comes from,
a message, and named values; when it is written out, whoever writes it adds the time.
-/

namespace FlowRuns

/-- How much an event matters, from errors to traces. -/
inductive Level where
  /-- something failed -/
  | error
  /-- something looks wrong -/
  | warn
  /-- something was done -/
  | info
  /-- a step on the way -/
  | debug
  /-- everything -/
  | trace
  deriving DecidableEq, Inhabited

namespace Level

/-- All levels, from the one that matters most. -/
def all : List Level := [error, warn, info, debug, trace]

/-- The name of a level. -/
def name : Level → String
  | error => "ERROR"
  | warn => "WARN"
  | info => "INFO"
  | debug => "DEBUG"
  | trace => "TRACE"

/-- The place of a level among all, errors first. -/
def rank : Level → Nat
  | error => 1
  | warn => 2
  | info => 3
  | debug => 4
  | trace => 5

end Level

/-- Something that was done or seen. -/
inductive Event where
  /-- log lines are written from here on -/
  | loggingInitialized (environment level : String) (json : Bool)
  /-- a configuration was read -/
  | configurationLoaded (environment baseUrl : String) (historyLimit pageSize : UInt32)
  /-- a database answers -/
  | databaseConnected (maxConnections : UInt32)
  /-- the database returned runs -/
  | historyQueried (deploymentId : String) (returned : Nat) (limit : UInt32)
  /-- statistics got the runs they consider -/
  | historyFetched (deploymentId : String) (runs : Nat) (options : StatsOptions)
  /-- statistics were computed, and stored or not -/
  | statsComputed (deploymentId : String) (runs : Nat) (stats : RunTimeStats) (persisted : Bool)
  /-- flow runs were copied into the history -/
  | runsSynced (deploymentId : String) (fetched : Nat) (recorded : UInt64)
  /-- a page of a log arrived -/
  | logPageFetched (flowRunId : String) (offset : UInt32) (lines : Nat)
  /-- a whole log was read -/
  | logWalked (flowRunId : String) (taskRunId : Option String) (pages lines : Nat)
  /-- a client was made -/
  | clientCreated (baseUrl : String) (timeoutSeconds : UInt64) (orgSlug : String)
  /-- a request is about to be sent -/
  | proxyRequest (method url : String)
  /-- a request got no answer -/
  | proxyUnreachable (method url error : String)
  /-- a request was refused -/
  | proxyRefused (method url status body : String)
  deriving DecidableEq, Inhabited

namespace Event

/-- The level of an event. -/
def level : Event → Level
  | loggingInitialized .. => .info
  | configurationLoaded .. => .debug
  | databaseConnected .. => .info
  | historyQueried .. => .debug
  | historyFetched .. => .debug
  | statsComputed .. => .info
  | runsSynced .. => .info
  | logPageFetched .. => .debug
  | logWalked .. => .info
  | clientCreated .. => .info
  | proxyRequest .. => .debug
  | proxyUnreachable .. => .error
  | proxyRefused .. => .error

/-- The place an event comes from. -/
def target : Event → String
  | loggingInitialized .. => "dataflow_core::logging"
  | configurationLoaded .. => "dataflow_core::config::loader"
  | databaseConnected .. => "dataflow_core::database::connection"
  | historyQueried .. => "dataflow_core::database::postgres"
  | historyFetched .. => "dataflow_core::services::run_time_stats"
  | statsComputed .. => "dataflow_core::logging"
  | runsSynced .. => "dataflow_core::services::flow_run_sync"
  | logPageFetched .. => "dataflow_core::services::log_pagination"
  | logWalked .. => "dataflow_core::logging"
  | clientCreated .. => "dataflow_core::client::prefect"
  | proxyRequest .. => "dataflow_core::client::prefect"
  | proxyUnreachable .. => "dataflow_core::client::prefect"
  | proxyRefused .. => "dataflow_core::client::prefect"

/-- The message of an event. -/
def message : Event → String
  | loggingInitialized .. => "Structured logging initialized"
  | configurationLoaded .. => "Configuration loaded"
  | databaseConnected .. => "Connected to dataflow database"
  | historyQueried .. => "Queried run history"
  | historyFetched .. => "Fetched run history for statistics"
  | statsComputed .. => "STATS_OPERATION"
  | runsSynced .. => "Synced flow runs into run history"
  | logPageFetched .. => "Fetched log page"
  | logWalked .. => "LOG_PAGINATION"
  | clientCreated .. => "Created Prefect proxy client"
  | proxyRequest .. => "Proxy request"
  | proxyUnreachable .. => "Proxy connection failed"
  | proxyRefused .. => "Proxy request failed"

/-- A count in JSON. -/
def count (n : Nat) : Json := .int n

/-- The words for states, as a list in brackets. -/
def statusesText (ss : List Status) : String :=
  "[" ++ ", ".intercalate (ss.map Status.word) ++ "]"

/-- The named values of an event, its message aside. -/
def fields : Event → List (String × Json)
  | loggingInitialized environment level json =>
    [("environment", .string environment), ("level", .string level), ("json", .bool json)]
  | configurationLoaded environment baseUrl historyLimit pageSize =>
    [("environment", .string environment), ("proxy_url", .string baseUrl),
      ("history_limit", count historyLimit.toNat), ("log_page_size", count pageSize.toNat)]
  | databaseConnected n => [("max_connections", count n.toNat)]
  | historyQueried id returned limit =>
    [("deployment_id", .string id), ("returned", count returned), ("limit", count limit.toNat)]
  | historyFetched id runs options =>
    [("deployment_id", .string id), ("runs", count runs), ("limit", count options.limit.toNat),
      ("statuses", .string (statusesText options.statuses))]
  | statsComputed id runs stats persisted =>
    [("operation", .string "compute_run_time_stats"), ("deployment_id", .string id),
      ("runs_considered", count runs), ("max_run_time", .int stats.max.toInt),
      ("min_run_time", .int stats.min.toInt), ("avg_run_time", .int stats.avg.toInt),
      ("wt_avg_run_time", .int stats.weightedAvg.toInt), ("persisted", .bool persisted)]
  | runsSynced id fetched recorded =>
    [("deployment_id", .string id), ("fetched", count fetched),
      ("recorded", count recorded.toNat)]
  | logPageFetched id offset lines =>
    [("flow_run_id", .string id), ("offset", count offset.toNat), ("page_len", count lines)]
  | logWalked id task pages lines =>
    [("operation", .string "fetch_all_logs"), ("flow_run_id", .string id)]
      ++ (task.map fun t => ("task_run_id", Json.string t)).toList
      ++ [("pages", count pages), ("lines", count lines)]
  | clientCreated baseUrl timeout org =>
    [("base_url", .string baseUrl), ("timeout_seconds", count timeout.toNat),
      ("org_slug", .string org)]
  | proxyRequest method url => [("method", .string method), ("url", .string url)]
  | proxyUnreachable method url error =>
    [("method", .string method), ("url", .string url), ("error", .string error)]
  | proxyRefused method url status body =>
    [("method", .string method), ("url", .string url), ("status", .string status),
      ("error", .string body)]

/-- The names of values that an event can have although it does not always have them: the time, in
events that tell it, and a task run. -/
def furtherNames : Event → List String
  | statsComputed .. => ["timestamp"]
  | logWalked .. => ["task_run_id", "timestamp"]
  | _ => []

/-- The names of all values that an event can have. -/
def names (e : Event) : List String := "message" :: e.fields.map Prod.fst ++ e.furtherNames

/-- The event as a JSON object: its named values and its message. -/
def toJson (e : Event) : Json := .ofEntries (e.fields ++ [("message", .string e.message)])

/-- The line that is written for an event, without the time. -/
def line (e : Event) : String :=
  (Json.ofEntries [("level", .string e.level.name), ("target", .string e.target),
    ("fields", e.toJson)]).text

end Event

end FlowRuns
