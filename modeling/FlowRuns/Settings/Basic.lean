import FlowRuns.Defaults
import FlowRuns.Error
import FlowRuns.Status
import FlowRuns.Text.Blank

/-!
# Settings

What can be configured, in five sections: the proxy, the database, the statistics, the logs that are
read, and the log that is written. Every setting has a default.

* `Settings.check` — refuses settings with which nothing works, the first fault in a fixed order.
* `Settings.decoder` — reads settings from a JSON value; what is missing takes its default. How
  single values are read is a parameter, the `Reading`.
-/

namespace FlowRuns

/-! ## The sections -/

/-- How to reach the proxy. -/
structure ProxySettings where
  /-- its base URL -/
  baseUrl : String
  /-- how many seconds a request may take -/
  timeoutSeconds : UInt64
  /-- how many seconds listing the flow runs of a deployment may take -/
  flowRunsTimeoutSeconds : UInt64
  /-- the organization on whose behalf requests are made -/
  orgSlug : Option String
  deriving DecidableEq

/-- How to reach the database. -/
structure DatabaseSettings where
  /-- its address -/
  url : String
  /-- how many connections may be open at a time -/
  maxConnections : UInt32
  /-- how many seconds may pass until one is free -/
  acquireTimeoutSeconds : UInt64
  deriving DecidableEq

/-- Which runs statistics consider. -/
structure StatsSettings where
  /-- how many of the latest -/
  historyLimit : UInt32
  /-- in which states -/
  statuses : List Status
  deriving DecidableEq

/-- How the log of a flow run is read. -/
structure LogSettings where
  /-- how many lines are asked for at a time -/
  pageSize : UInt32
  deriving DecidableEq

/-- How the program's own log is written. -/
structure LoggingSettings where
  /-- what is written; none for what is usual where the program runs -/
  level : Option String
  /-- whether lines are JSON objects -/
  json : Bool
  deriving DecidableEq

/-- All settings. -/
structure Settings where
  /-- the proxy -/
  proxy : ProxySettings
  /-- the database -/
  database : DatabaseSettings
  /-- the statistics -/
  runStats : StatsSettings
  /-- the logs that are read -/
  logs : LogSettings
  /-- the log that is written -/
  logging : LoggingSettings
  deriving DecidableEq

/-! ## Defaults -/

/-- The proxy on this machine. -/
def ProxySettings.default : ProxySettings :=
  ⟨"http://localhost:8085", defaultTimeoutSeconds, defaultFlowRunsTimeoutSeconds, none⟩

/-- The database on this machine. -/
def DatabaseSettings.default : DatabaseSettings :=
  ⟨"postgresql://localhost/dataflow_development", 5, 10⟩

/-- The latest completed runs. -/
def StatsSettings.default : StatsSettings := ⟨defaultHistoryLimit, [.completed]⟩

/-- Pages of the usual size. -/
def LogSettings.default : LogSettings := ⟨defaultLogPageSize⟩

/-- Text lines, as many as is usual. -/
def LoggingSettings.default : LoggingSettings := ⟨none, false⟩

/-- The settings where nothing is configured. -/
def Settings.default : Settings := ⟨.default, .default, .default, .default, .default⟩

instance : Inhabited ProxySettings := ⟨.default⟩

instance : Inhabited DatabaseSettings := ⟨.default⟩

instance : Inhabited StatsSettings := ⟨.default⟩

instance : Inhabited LogSettings := ⟨.default⟩

instance : Inhabited LoggingSettings := ⟨.default⟩

instance : Inhabited Settings := ⟨.default⟩

/-! ## Checking -/

namespace Settings

/-- Fails with a fault if a condition holds. -/
def refuseIf (condition : Bool) (fault : SettingsFault) : Except SettingsFault Unit :=
  if condition then .error fault else .ok ()

/-- Succeeds with settings that can work; otherwise the first fault. -/
def check (s : Settings) : Except SettingsFault Unit := do
  refuseIf (Text.isBlank s.proxy.baseUrl) .blankBaseUrl
  refuseIf (s.proxy.timeoutSeconds = 0 || s.proxy.flowRunsTimeoutSeconds = 0) .zeroTimeout
  refuseIf (s.database.maxConnections = 0) .zeroConnections
  refuseIf (s.runStats.historyLimit = 0) .zeroHistoryLimit
  refuseIf s.runStats.statuses.isEmpty .noStatuses
  refuseIf (s.logs.pageSize = 0) .zeroPageSize

end Settings

/-! ## Reading -/

/-- How the value of a single setting is read, and how strictly a section that is written as a
sequence. -/
structure Reading where
  /-- a text -/
  text : Decoder String
  /-- a truth value -/
  bool : Decoder Bool
  /-- a number of 32 bits -/
  uint32 : Decoder UInt32
  /-- a number of 64 bits -/
  uint64 : Decoder UInt64
  /-- a state of a flow run -/
  status : Decoder Status
  /-- whether a sequence may go on after the last setting of its section -/
  surplus : Bool

/-- Values have to be of the type of their setting. -/
def Reading.exact : Reading := ⟨.string, .bool, .uint32, .uint64, Status.decoder, false⟩

/-- Reads a value with named settings. -/
def Reading.record {α : Type} (r : Reading) (settings : Record α) (title : String) : Decoder α
  | .array es =>
    if r.surplus then (settings.take (settings.shape title) 0 es).map (·.1)
    else settings.decoder title (.array es)
  | j => settings.decoder title j

/-- Reads the section of the proxy. -/
def ProxySettings.decoder (r : Reading) : Decoder ProxySettings :=
  r.record
    (ProxySettings.mk <$> .withDefault "base_url" r.text ProxySettings.default.baseUrl
      <*> .withDefault "timeout_seconds" r.uint64 ProxySettings.default.timeoutSeconds
      <*> .withDefault "flow_runs_timeout_seconds" r.uint64
        ProxySettings.default.flowRunsTimeoutSeconds
      <*> .withDefault "org_slug" (.optional r.text) ProxySettings.default.orgSlug)
    "ProxyConfig"

/-- Reads the section of the database. -/
def DatabaseSettings.decoder (r : Reading) : Decoder DatabaseSettings :=
  r.record
    (DatabaseSettings.mk <$> .withDefault "url" r.text DatabaseSettings.default.url
      <*> .withDefault "max_connections" r.uint32 DatabaseSettings.default.maxConnections
      <*> .withDefault "acquire_timeout_seconds" r.uint64
        DatabaseSettings.default.acquireTimeoutSeconds)
    "DatabaseConfig"

/-- Reads the section of the statistics. -/
def StatsSettings.decoder (r : Reading) : Decoder StatsSettings :=
  r.record
    (StatsSettings.mk <$> .withDefault "history_limit" r.uint32 StatsSettings.default.historyLimit
      <*> .withDefault "statuses" (.list r.status) StatsSettings.default.statuses)
    "RunStatsConfig"

/-- Reads the section of the logs that are read. -/
def LogSettings.decoder (r : Reading) : Decoder LogSettings :=
  r.record (LogSettings.mk <$> .withDefault "page_size" r.uint32 LogSettings.default.pageSize)
    "LogsConfig"

/-- Reads the section of the log that is written. -/
def LoggingSettings.decoder (r : Reading) : Decoder LoggingSettings :=
  r.record
    (LoggingSettings.mk <$> .withDefault "level" (.optional r.text) LoggingSettings.default.level
      <*> .withDefault "json" r.bool LoggingSettings.default.json)
    "LoggingConfig"

namespace Settings

/-- Reads settings. -/
def decoder (r : Reading) : Decoder Settings :=
  r.record
    (Settings.mk <$> .withDefault "proxy" (ProxySettings.decoder r) .default
      <*> .withDefault "database" (DatabaseSettings.decoder r) .default
      <*> .withDefault "run_stats" (StatsSettings.decoder r) .default
      <*> .withDefault "logs" (LogSettings.decoder r) .default
      <*> .withDefault "logging" (LoggingSettings.decoder r) .default)
    "DataflowConfig"

/-- The settings as a JSON object. -/
def toJson (s : Settings) : Json :=
  .ofEntries [
    ("proxy", .ofEntries [("base_url", .string s.proxy.baseUrl),
      ("timeout_seconds", .int s.proxy.timeoutSeconds.toNat),
      ("flow_runs_timeout_seconds", .int s.proxy.flowRunsTimeoutSeconds.toNat),
      ("org_slug", .ofOption s.proxy.orgSlug)]),
    ("database", .ofEntries [("url", .string s.database.url),
      ("max_connections", .int s.database.maxConnections.toNat),
      ("acquire_timeout_seconds", .int s.database.acquireTimeoutSeconds.toNat)]),
    ("run_stats", .ofEntries [("history_limit", .int s.runStats.historyLimit.toNat),
      ("statuses", .array (s.runStats.statuses.map fun st => .string st.name))]),
    ("logs", .ofEntries [("page_size", .int s.logs.pageSize.toNat)]),
    ("logging", .ofEntries [("level", .ofOption s.logging.level),
      ("json", .bool s.logging.json)])]

end Settings

end FlowRuns
