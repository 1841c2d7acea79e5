import FlowRuns.Cli.Run

/-!
# The program

The command line of the library. This program itself opens no connection: a request to the proxy
stays without an answer, and a database cannot be reached, which the commands report as they report
any failed connection.
-/

namespace FlowRuns.Cli

/-- The names of the variables that are looked at. -/
def variableNames : List String :=
  ["DATAFLOW_ENV", "APP_ENV", "RUST_LOG", "PREFECT_PROXY_API_URL", "DATABASE_URL",
   "DATAFLOW__PROXY__BASE_URL", "DATAFLOW__PROXY__TIMEOUT_SECONDS",
   "DATAFLOW__PROXY__FLOW_RUNS_TIMEOUT_SECONDS", "DATAFLOW__PROXY__ORG_SLUG",
   "DATAFLOW__DATABASE__URL", "DATAFLOW__DATABASE__MAX_CONNECTIONS",
   "DATAFLOW__DATABASE__ACQUIRE_TIMEOUT_SECONDS", "DATAFLOW__RUN_STATS__HISTORY_LIMIT",
   "DATAFLOW__LOGS__PAGE_SIZE", "DATAFLOW__LOGGING__LEVEL", "DATAFLOW__LOGGING__JSON"]

/-- The paths at which a configuration file may be, given the one that is asked for. -/
def candidatePaths (asked : Option String) : List String :=
  (asked.getD Surroundings.usualPath :: [Surroundings.usualPath]).flatMap fun p =>
    p :: FileFormat.extensions.map fun e => p ++ "." ++ e.1

/-- No request is answered. -/
def unreachable : (r : peers.Request) → Unit → peers.Answer r × Unit
  | .inl (.connect _), () => (.error .lost, ())
  | .inl .hasTables, () => (.error .lost, ())
  | .inl (.execute _), () => (.lost, ())
  | .inr _, () => (.none, ())

/-- The variables that are set. -/
def readVariables : IO Variables :=
  variableNames.filterMapM fun name => do
    return (← IO.getEnv name).map fun value => (name, value)

/-- The texts of the files that can be read. -/
def readFiles (paths : List String) : IO (List (String × String)) :=
  paths.filterMapM fun (path : String) => do
    try return some (path, ← IO.FS.readFile path)
    catch _ => return none

/-- The configuration file that a command line asks for. -/
def askedFor (words : List String) : Option String :=
  match Invocation.ofWords words with
  | .ok i => i.config
  | .error _ => none

end FlowRuns.Cli

open FlowRuns

/-- Runs a command. -/
def main (words : List String) : IO UInt32 := do
  let files ← Cli.readFiles (Cli.candidatePaths (Cli.askedFor words))
  let sur : Surroundings := ⟨← Cli.readVariables, fun path => files.lookup path⟩
  let (report, ()) := Cli.report Cli.unreachable sur words ()
  report.log.forM fun e => IO.println e.line
  report.printed.forM fun l => IO.println l
  report.error.forM fun l => IO.eprintln l
  return UInt32.ofNat report.exit
