import FlowRuns.Json.Decode
import FlowRuns.Url.Host

/-!
# Errors

Every error is a cause; its wording is a function of the cause.

* `Violation` — an argument that no operation accepts.
* `SettingsFault` — a configuration that cannot be used.
* `ResponseFault`, `HttpError` — what goes wrong in an exchange with the orchestrator's proxy.
* `DatabaseFault` — what goes wrong in an exchange with the database.
* `FlowError` — all of them, and what is not found.

An error is *retryable* when the same call may succeed later: connection failures, refusals with
a status of at least 500 or of 429, and all failures of the database. Nothing is retried here.
-/

namespace FlowRuns

/-! ## Arguments -/

/-- What is wrong with an argument. -/
inductive Violation where
  /-- an identifier that is blank -/
  | blank (field : String)
  /-- an identifier that would not stay within one segment of a path -/
  | slash (field value : String)
  /-- a history of no runs -/
  | zeroLimit
  /-- no state that a run could be in -/
  | noStatuses
  /-- pages without lines -/
  | zeroPageSize
  /-- something else, in words -/
  | other (text : String)
  deriving DecidableEq, Inhabited

/-- The wording of a violation. -/
def Violation.message : Violation → String
  | blank field => field ++ " must not be empty"
  | slash field value => field ++ " must not contain '/': " ++ value
  | zeroLimit => "limit must be greater than 0"
  | noStatuses => "statuses to include must name at least one status"
  | zeroPageSize => "page_size must be greater than 0"
  | other text => text

/-! ## Configuration -/

/-- What is wrong with a configuration. -/
inductive SettingsFault where
  /-- the base URL of the proxy is blank -/
  | blankBaseUrl
  /-- a time-out of no time -/
  | zeroTimeout
  /-- no connections -/
  | zeroConnections
  /-- a history of no runs -/
  | zeroHistoryLimit
  /-- no state that a run could be in -/
  | noStatuses
  /-- pages without lines -/
  | zeroPageSize
  /-- the base URL of the proxy is no URL -/
  | badBaseUrl (url : String) (cause : UrlError)
  /-- a source cannot be read, or a value in it does not fit -/
  | unreadable
  /-- something else, in words -/
  | other (text : String)
  deriving DecidableEq, Inhabited

/-- The wording of a fault in a configuration. -/
def SettingsFault.message : SettingsFault → String
  | blankBaseUrl => "proxy.base_url must not be empty"
  | zeroTimeout => "proxy timeouts must be greater than 0"
  | zeroConnections => "database.max_connections must be greater than 0"
  | zeroHistoryLimit => "run_stats.history_limit must be greater than 0"
  | noStatuses => "run_stats.statuses must name at least one status"
  | zeroPageSize => "logs.page_size must be greater than 0"
  | badBaseUrl url cause => "Invalid proxy base URL '" ++ url ++ "': " ++ cause.message
  | unreadable => "unreadable configuration"
  | other text => text

/-! ## Exchanges with the proxy -/

/-- Why an accepted request's answer cannot be used. -/
inductive ResponseFault where
  /-- the body is no JSON text -/
  | notJson
  /-- an array is missing from the body -/
  | missingArray (name : String)
  /-- a value in the body does not fit -/
  | mismatch (m : Mismatch)
  /-- a flow run has neither a start time nor an expected one -/
  | noStartTime (flowRunId : String)
  /-- a flow run's state is none of the known ones -/
  | unknownStatus (text : String)
  /-- the next offset into a log does not fit 32 bits -/
  | offsetOverflow (offset : UInt32)
  /-- something else, in words -/
  | other (text : String)
  deriving Inhabited

/-- The wording of a fault in a response. -/
def ResponseFault.message : ResponseFault → String
  | notJson => "not JSON"
  | missingArray name => "missing '" ++ name ++ "' array"
  | mismatch m => m.message
  | noStartTime id => "flow run " ++ id ++ " has no usable start time"
  | unknownStatus text => "Unknown flow run status: " ++ text
  | offsetOverflow offset => "log offset overflow after " ++ toString offset.toNat ++ " lines"
  | other text => text

/-- Whether the wording belongs to this library's contract. -/
def ResponseFault.isWorded : ResponseFault → Bool
  | notJson => false
  | mismatch m => m.isWorded
  | _ => true

/-- What goes wrong in an exchange with the proxy. -/
inductive HttpError where
  /-- there was no answer, or it broke off -/
  | connection
  /-- the proxy refused, with a status and a text -/
  | status (code : Nat) (body : String)
  /-- the proxy accepted, but its answer cannot be used -/
  | invalidResponse (endpoint : String) (fault : ResponseFault)
  deriving Inhabited

namespace HttpError

/-- The wording: a failure of the connection always reads the same, a refusal reads as the
proxy's own text. -/
def message : HttpError → String
  | connection => "connection error"
  | status _ body => body
  | invalidResponse endpoint fault => "invalid response from " ++ endpoint ++ ": " ++ fault.message

/-- Whether the wording belongs to this library's contract. -/
def isWorded : HttpError → Bool
  | invalidResponse _ fault => fault.isWorded
  | _ => true

/-- The status of a refusal. -/
def statusCode? : HttpError → Option Nat
  | status code _ => some code
  | _ => none

/-- Whether the same request may succeed later. -/
def isRetryable : HttpError → Bool
  | connection => true
  | status code _ => 500 ≤ code || code == 429
  | invalidResponse _ _ => false

end HttpError

/-! ## Exchanges with the database -/

/-- What goes wrong in an exchange with the database. -/
inductive DatabaseFault where
  /-- a row was expected and there was none -/
  | rowNotFound
  /-- the server said something unexpected -/
  | protocol (text : String)
  /-- the server refused a statement or the login -/
  | server (text : String)
  /-- a row lacks a column -/
  | columnNotFound (name : String)
  /-- a value in a column does not fit -/
  | columnDecode (name : String)
  /-- the connection was lost or never came about -/
  | lost
  /-- the address of the database cannot be used -/
  | badAddress
  deriving DecidableEq, Inhabited

namespace DatabaseFault

/-- The wording of a failure. -/
def message : DatabaseFault → String
  | rowNotFound => "no rows returned by a query that expected to return at least one row"
  | protocol text => "encountered unexpected or invalid data: " ++ text
  | server text => "error returned from database: " ++ text
  | columnNotFound name => "no column found for name: " ++ name
  | columnDecode name => "column " ++ name ++ " cannot be decoded"
  | lost => "the connection to the database is lost"
  | badAddress => "the address of the database cannot be used"

/-- Whether the wording belongs to this library's contract. -/
def isWorded : DatabaseFault → Bool
  | columnDecode _ => false
  | lost => false
  | badAddress => false
  | _ => true

end DatabaseFault

/-! ## All errors -/

/-- An error of an operation. -/
inductive FlowError where
  /-- an argument that no operation accepts -/
  | validation (violation : Violation)
  /-- a configuration that cannot be used -/
  | configuration (fault : SettingsFault)
  /-- a value that cannot be written -/
  | serialization (text : String)
  /-- nothing by that name -/
  | notFound (what : String)
  /-- a failure of the database -/
  | database (fault : DatabaseFault)
  /-- a failure of an exchange with the proxy -/
  | remote (error : HttpError)
  deriving Inhabited

namespace FlowError

/-- The wording: each kind has its own beginning; what comes from the proxy reads unchanged. -/
def message : FlowError → String
  | validation v => "Validation error: " ++ v.message
  | configuration f => "Configuration error: " ++ f.message
  | serialization text => "Serialization error: " ++ text
  | notFound what => "Not found: " ++ what
  | database f => "Database error: " ++ f.message
  | remote e => e.message

/-- Whether the wording belongs to this library's contract. -/
def isWorded : FlowError → Bool
  | configuration f => f ≠ .unreadable
  | database f => f.isWorded
  | remote e => e.isWorded
  | _ => true

/-- The status of a refusal by the proxy. -/
def statusCode? : FlowError → Option Nat
  | remote e => e.statusCode?
  | _ => none

/-- Whether the same call may succeed later. -/
def isRetryable : FlowError → Bool
  | remote e => e.isRetryable
  | database _ => true
  | _ => false

end FlowError

end FlowRuns
