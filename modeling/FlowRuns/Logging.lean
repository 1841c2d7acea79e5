import FlowRuns.Logging.Filter
import FlowRuns.Settings.Environment
import FlowRuns.Settings.Basic

/-!
# The program's own log

Which events are written.

* `Logging.filter` — the filter in force: the one in the variable `RUST_LOG` if that holds one, or
  else the configured level, or else what is usual where the program runs.
* `Logging.complaints` — what is said about a configured level that cannot be read.
-/

namespace FlowRuns.Logging

/-- What is usual where the program runs. -/
def usualLevel (environment : String) : String :=
  if environment = "production" then "info" else "debug"

/-- The configured level, or the usual one. -/
def levelText (vars : Variables) (s : LoggingSettings) : String :=
  s.level.getD (usualLevel vars.environmentName)

/-- The filter that is asked for by a variable. -/
def askedFor? (vars : Variables) : Option LogFilter :=
  (vars.lookup "RUST_LOG").bind LogFilter.ofText?

/-- The filter in force. -/
def filter (vars : Variables) (s : LoggingSettings) : LogFilter :=
  (askedFor? vars).getD (LogFilter.ofTextLossy (levelText vars s))

/-- What is said while the filter is read. -/
def complaints (vars : Variables) (s : LoggingSettings) : List String :=
  if (askedFor? vars).isSome then [] else LogFilter.complaints (levelText vars s)

/-- What is reported once the log is written. -/
def initialized (vars : Variables) (s : LoggingSettings) : Event :=
  .loggingInitialized vars.environmentName (levelText vars s) s.json

end FlowRuns.Logging
