import TypedSql.Errors
/-!
# Errors of the PostgreSQL backend

What can go wrong between the backend and a server, and what an execution makes of it: trouble
with the connection stays that, and everything else is an error of the database.

## Main definitions

- `Postgres.ServerError`: errors that a server reports.
- `Postgres.DriverError`: errors of the pool, the connection and the server.
- `Postgres.Error`: errors of the backend.
- `Postgres.Error.toExecError`: the error of the execution.
-/

namespace TypedSql.Postgres

/-- An error that a server reports. -/
structure ServerError where
  text : String
  /-- The code of the error, by which its kind is known. -/
  code : String := ""
deriving DecidableEq, Repr

/-- Whether a server that refuses a session with this error may accept one soon: it has too many
sessions, or it is not ready yet. -/
def ServerError.isTransient (e : ServerError) : Bool := e.code = "53300" || e.code = "57P03"

/-- An error of the pool, of a connection or of the server. -/
inductive DriverError where
  | poolTimedOut
  | poolClosed
  | io (text : String)
  | rowNotFound
  | protocol (text : String)
  | database (e : ServerError)
  | configuration (text : String)
  | columnDecode (ordinal : Nat) (text : String)
deriving DecidableEq, Repr

/-- There is no socket where one was looked for. -/
def DriverError.noSocket : DriverError := .io "No such file or directory (os error 2)"

/-- Nothing listens where a connection was asked for. -/
def DriverError.refused : DriverError := .io "Connection refused (os error 111)"

/-- Whether connecting may succeed soon, although it has failed with this error. -/
def DriverError.isTransient : DriverError → Bool
  | database e => e.isTransient
  | e => e = refused

/-- The wording of the error. -/
def DriverError.message : DriverError → String
  | poolTimedOut => "pool timed out while waiting for an open connection"
  | poolClosed => "attempted to acquire a connection on a closed pool"
  | io text => "error communicating with database: " ++ text
  | rowNotFound => "no rows returned by a query that expected to return at least one row"
  | protocol text => "encountered unexpected or invalid data: " ++ text
  | database e => "error returned from database: " ++ e.text
  | configuration text => "error with configuration: " ++ text
  | columnDecode ordinal text =>
    "error occurred while decoding column " ++ toString ordinal ++ ": " ++ text

/-- An error of the backend. -/
inductive Error where
  | missingUrl
  | invalidSetting (name value : String)
  | unsupportedType (ordinal : Nat) (typeName : String)
  | noRuntime
  | database (e : DriverError)
deriving DecidableEq, Repr

namespace Error

/-- The wording of the error. -/
def message : Error → String
  | missingUrl => "DATABASE_URL is not set"
  | invalidSetting name value => "Invalid value '" ++ value ++ "' for " ++ name
  | unsupportedType ordinal typeName =>
    "Column " ++ toString ordinal ++ " has unsupported type " ++ typeName
  | noRuntime => "Blocking calls require a multi-threaded Tokio runtime"
  | database e => "Database error: " ++ e.message

/-- The error as an execution reports it. -/
def toExecError (e : Error) : ExecError :=
  match e with
  | database .poolTimedOut => .connection e.message
  | database .poolClosed => .connection e.message
  | database (.io text) => .connection text
  | database driver => .database driver.message
  | noRuntime => .connection e.message
  | other => .database other.message

end Error

end TypedSql.Postgres
