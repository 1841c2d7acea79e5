/-!
# Defaults and fixed names

The numbers in force where nothing else is configured, and the names that the protocol fixes.
-/

namespace FlowRuns

/-- How many of the latest runs statistics consider. -/
def defaultHistoryLimit : UInt32 := 20

/-- How many log lines are asked for at a time. -/
def defaultLogPageSize : UInt32 := 200

/-- How many seconds a request may take. -/
def defaultTimeoutSeconds : UInt64 := 30

/-- How many seconds listing the flow runs of a deployment may take; long histories are slow. -/
def defaultFlowRunsTimeoutSeconds : UInt64 := 60

/-- The header that carries the organization with every request. -/
def orgHeader : String := "x-ddp-org"

/-- Every figure of the statistics over no runs. -/
def noRunsFigure : Int64 := -1

/-- The version of the program. -/
def version : String := "0.1.0"

/-- How the client names itself. -/
def userAgent : String := "dataflow-core/" ++ version

end FlowRuns
