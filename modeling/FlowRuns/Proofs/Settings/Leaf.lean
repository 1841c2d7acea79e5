import FlowRuns.Proofs.Json.Fields
import FlowRuns.Settings.Basic

/-!
# The leaves of the settings

Settings have twelve leaves in five sections. A leaf is known by its section and its key; in a section
that is written as a sequence, by its position.

* `Leaf` — the leaves, and for each one where it stands, how it is read, and where it is found in the
  settings.
* `Leaf.inDocument?` — what a document says of a leaf.
* `Leaf.yields` — when settings are read from a document, each leaf is read from what the document says
  of it, whatever it says of the others, and has its default if the document says nothing.
-/

namespace FlowRuns

variable {r : Reading} {j : Json}

/-- What is read has been read from the fields, whatever comes after them. -/
theorem Reading.reads_of_record {α : Type} {settings : Record α} {title : String} {a : α}
    (h : r.record settings title j = .ok a) : ∃ left, settings.Reads a left j := by
  unfold Reading.record at h
  split at h
  · next es =>
    split at h
    · cases taken : settings.take (settings.shape title) 0 es with
      | error m => simp [taken, Except.map] at h
      | ok out =>
        obtain ⟨b, i, es'⟩ := out
        obtain rfl : b = a := by simpa [taken, Except.map] using h
        exact ⟨_, _, _, _, _, taken, rfl⟩
    · exact Record.reads_of_decoder h
  · exact Record.reads_of_decoder h

/-! ## Section by section -/

/-- The fields of the section of the proxy. -/
theorem ProxySettings.yields {p : ProxySettings} (h : ProxySettings.decoder r j = .ok p) :
    r.text.Yields default.baseUrl (j.field? "base_url" 0) p.baseUrl ∧
    r.uint64.Yields default.timeoutSeconds (j.field? "timeout_seconds" 1) p.timeoutSeconds ∧
    r.uint64.Yields default.flowRunsTimeoutSeconds (j.field? "flow_runs_timeout_seconds" 2)
      p.flowRunsTimeoutSeconds ∧
    (Decoder.optional r.text).Yields default.orgSlug (j.field? "org_slug" 3) p.orgSlug := by
  obtain ⟨_, h₄⟩ := Reading.reads_of_record h
  obtain ⟨_, _, _, h₃, y₄, rfl, rfl⟩ := h₄.last
  obtain ⟨_, _, _, h₂, y₃, rfl, rfl⟩ := h₃.last
  obtain ⟨_, _, _, h₁, y₂, rfl, rfl⟩ := h₂.last
  obtain ⟨_, y₁, rfl, rfl⟩ := h₁.first
  simp only [Json.field?_rest] at y₂ y₃ y₄
  exact ⟨y₁, y₂, y₃, y₄⟩

/-- The fields of the section of the database. -/
theorem DatabaseSettings.yields {d : DatabaseSettings} (h : DatabaseSettings.decoder r j = .ok d) :
    r.text.Yields default.url (j.field? "url" 0) d.url ∧
    r.uint32.Yields default.maxConnections (j.field? "max_connections" 1) d.maxConnections ∧
    r.uint64.Yields default.acquireTimeoutSeconds (j.field? "acquire_timeout_seconds" 2)
      d.acquireTimeoutSeconds := by
  obtain ⟨_, h₃⟩ := Reading.reads_of_record h
  obtain ⟨_, _, _, h₂, y₃, rfl, rfl⟩ := h₃.last
  obtain ⟨_, _, _, h₁, y₂, rfl, rfl⟩ := h₂.last
  obtain ⟨_, y₁, rfl, rfl⟩ := h₁.first
  simp only [Json.field?_rest] at y₂ y₃
  exact ⟨y₁, y₂, y₃⟩

/-- The fields of the section of the statistics. -/
theorem StatsSettings.yields {t : StatsSettings} (h : StatsSettings.decoder r j = .ok t) :
    r.uint32.Yields default.historyLimit (j.field? "history_limit" 0) t.historyLimit ∧
    (Decoder.list r.status).Yields default.statuses (j.field? "statuses" 1) t.statuses := by
  obtain ⟨_, h₂⟩ := Reading.reads_of_record h
  obtain ⟨_, _, _, h₁, y₂, rfl, rfl⟩ := h₂.last
  obtain ⟨_, y₁, rfl, rfl⟩ := h₁.first
  simp only [Json.field?_rest] at y₂
  exact ⟨y₁, y₂⟩

/-- The field of the section of the logs that are read. -/
theorem LogSettings.yields {l : LogSettings} (h : LogSettings.decoder r j = .ok l) :
    r.uint32.Yields default.pageSize (j.field? "page_size" 0) l.pageSize := by
  obtain ⟨_, h₁⟩ := Reading.reads_of_record h
  obtain ⟨_, y₁, rfl, rfl⟩ := h₁.first
  exact y₁

/-- The fields of the section of the log that is written. -/
theorem LoggingSettings.yields {l : LoggingSettings} (h : LoggingSettings.decoder r j = .ok l) :
    (Decoder.optional r.text).Yields default.level (j.field? "level" 0) l.level ∧
    r.bool.Yields default.json (j.field? "json" 1) l.json := by
  obtain ⟨_, h₂⟩ := Reading.reads_of_record h
  obtain ⟨_, _, _, h₁, y₂, rfl, rfl⟩ := h₂.last
  obtain ⟨_, y₁, rfl, rfl⟩ := h₁.first
  simp only [Json.field?_rest] at y₂
  exact ⟨y₁, y₂⟩

/-- The sections. -/
theorem Settings.yields {s : Settings} (h : Settings.decoder r j = .ok s) :
    (ProxySettings.decoder r).Yields .default (j.field? "proxy" 0) s.proxy ∧
    (DatabaseSettings.decoder r).Yields .default (j.field? "database" 1) s.database ∧
    (StatsSettings.decoder r).Yields .default (j.field? "run_stats" 2) s.runStats ∧
    (LogSettings.decoder r).Yields .default (j.field? "logs" 3) s.logs ∧
    (LoggingSettings.decoder r).Yields .default (j.field? "logging" 4) s.logging := by
  obtain ⟨_, h₅⟩ := Reading.reads_of_record h
  obtain ⟨_, _, _, h₄, y₅, rfl, rfl⟩ := h₅.last
  obtain ⟨_, _, _, h₃, y₄, rfl, rfl⟩ := h₄.last
  obtain ⟨_, _, _, h₂, y₃, rfl, rfl⟩ := h₃.last
  obtain ⟨_, _, _, h₁, y₂, rfl, rfl⟩ := h₂.last
  obtain ⟨_, y₁, rfl, rfl⟩ := h₁.first
  simp only [Json.field?_rest] at y₂ y₃ y₄ y₅
  exact ⟨y₁, y₂, y₃, y₄, y₅⟩

/-! ## Leaves -/

/-- A single setting. -/
inductive Leaf where
  /-- the base URL of the proxy -/
  | baseUrl
  /-- how long a request may take -/
  | timeoutSeconds
  /-- how long listing flow runs may take -/
  | flowRunsTimeoutSeconds
  /-- the organization -/
  | orgSlug
  /-- the address of the database -/
  | databaseUrl
  /-- how many connections there may be -/
  | maxConnections
  /-- how long one may be waited for -/
  | acquireTimeoutSeconds
  /-- how many runs are considered -/
  | historyLimit
  /-- in which states -/
  | statuses
  /-- how many lines a page has -/
  | pageSize
  /-- what is logged -/
  | level
  /-- how it is logged -/
  | json
  deriving DecidableEq

namespace Leaf

/-- The name of the section that a leaf belongs to. -/
def sectionName : Leaf → String
  | baseUrl | timeoutSeconds | flowRunsTimeoutSeconds | orgSlug => "proxy"
  | databaseUrl | maxConnections | acquireTimeoutSeconds => "database"
  | historyLimit | statuses => "run_stats"
  | pageSize => "logs"
  | level | json => "logging"

/-- The key of a leaf in its section. -/
def key : Leaf → String
  | baseUrl => "base_url"
  | timeoutSeconds => "timeout_seconds"
  | flowRunsTimeoutSeconds => "flow_runs_timeout_seconds"
  | orgSlug => "org_slug"
  | databaseUrl => "url"
  | maxConnections => "max_connections"
  | acquireTimeoutSeconds => "acquire_timeout_seconds"
  | historyLimit => "history_limit"
  | statuses => "statuses"
  | pageSize => "page_size"
  | level => "level"
  | json => "json"

/-- The position of a leaf in a section that is written as a sequence. -/
def position : Leaf → Nat
  | baseUrl | databaseUrl | historyLimit | pageSize | level => 0
  | timeoutSeconds | maxConnections | statuses | json => 1
  | flowRunsTimeoutSeconds | acquireTimeoutSeconds => 2
  | orgSlug => 3

/-- The type of a leaf. -/
abbrev Value : Leaf → Type
  | baseUrl | databaseUrl => String
  | timeoutSeconds | flowRunsTimeoutSeconds | acquireTimeoutSeconds => UInt64
  | maxConnections | historyLimit | pageSize => UInt32
  | orgSlug | level => Option String
  | statuses => List Status
  | json => Bool

/-- How a leaf is read. -/
def decoder (r : Reading) : (leaf : Leaf) → Decoder leaf.Value
  | baseUrl | databaseUrl => r.text
  | timeoutSeconds | flowRunsTimeoutSeconds | acquireTimeoutSeconds => r.uint64
  | maxConnections | historyLimit | pageSize => r.uint32
  | orgSlug | level => .optional r.text
  | statuses => .list r.status
  | json => r.bool

/-- A leaf of the settings. -/
def get (s : Settings) : (leaf : Leaf) → leaf.Value
  | baseUrl => s.proxy.baseUrl
  | timeoutSeconds => s.proxy.timeoutSeconds
  | flowRunsTimeoutSeconds => s.proxy.flowRunsTimeoutSeconds
  | orgSlug => s.proxy.orgSlug
  | databaseUrl => s.database.url
  | maxConnections => s.database.maxConnections
  | acquireTimeoutSeconds => s.database.acquireTimeoutSeconds
  | historyLimit => s.runStats.historyLimit
  | statuses => s.runStats.statuses
  | pageSize => s.logs.pageSize
  | level => s.logging.level
  | json => s.logging.json

/-- What a section says of a leaf. -/
def inSection? (leaf : Leaf) : Json → Option Json := Json.field? leaf.key leaf.position

/-- What a document says of a leaf. -/
def inDocument? (leaf : Leaf) (document : Json) : Option Json :=
  (document.get? leaf.sectionName).bind leaf.inSection?

end Leaf

/-- A part of what is read from a value, or else of the default, is what a decoder of its own reads
from a part of the value, or else the part of the default. -/
theorem Decoder.Yields.part {α β : Type} {whole : Decoder α} {part : Decoder β} {default a : α}
    {given? : Option Json} {pick? : Json → Option Json} {of : α → β}
    (h : whole.Yields default given? a)
    (hpart : ∀ j, whole j = .ok a → part.Yields (of default) (pick? j) (of a)) :
    part.Yields (of default) (given?.bind pick?) (of a) := by
  cases given? with
  | none =>
    obtain rfl : a = default := h
    exact rfl
  | some j => exact hpart j h

/-- **Leaf by leaf.** Settings that are read from an object have in each leaf what the object says of
that leaf, and its default if the object does not say anything. -/
theorem Leaf.yields {es : List (String × Json)} {s : Settings}
    (h : Settings.decoder r (.object es) = .ok s) (leaf : Leaf) :
    (leaf.decoder r).Yields (leaf.get .default) (leaf.inDocument? (.object es)) (leaf.get s) := by
  obtain ⟨proxy, database, runStats, logs, logging⟩ := Settings.yields h
  cases leaf with
  | baseUrl => exact proxy.part fun _ h => (ProxySettings.yields h).1
  | timeoutSeconds => exact proxy.part fun _ h => (ProxySettings.yields h).2.1
  | flowRunsTimeoutSeconds => exact proxy.part fun _ h => (ProxySettings.yields h).2.2.1
  | orgSlug => exact proxy.part fun _ h => (ProxySettings.yields h).2.2.2
  | databaseUrl => exact database.part fun _ h => (DatabaseSettings.yields h).1
  | maxConnections => exact database.part fun _ h => (DatabaseSettings.yields h).2.1
  | acquireTimeoutSeconds => exact database.part fun _ h => (DatabaseSettings.yields h).2.2
  | historyLimit => exact runStats.part fun _ h => (StatsSettings.yields h).1
  | statuses => exact runStats.part fun _ h => (StatsSettings.yields h).2
  | pageSize => exact logs.part fun _ h => LogSettings.yields h
  | level => exact logging.part fun _ h => (LoggingSettings.yields h).1
  | json => exact logging.part fun _ h => (LoggingSettings.yields h).2

end FlowRuns
