import ReleaseLag.Cursor
import ReleaseLag.Template.Fault
import ReleaseLag.Time.Printed

/-!
# `ReleaseLag.Error`: the ways a request can fail

An error says who is at fault: the request (`invalidArgument`,
`invalidCursor`), the store (`queryExecution`, `rowMapping`) or the set-up
(`template`, `config`, `io`). Only the first two are the client's. A
cancelled query and one that ran out of time are failures of the query with a
cause of their own.
-/

set_option autoImplicit false

namespace ReleaseLag

/-- Why the arguments of a request are refused before any query. -/
inductive ArgumentFault
  | parameterName (name : Text)
  | windowOrder (start stop : Instant)
  | noTarget
  | noReferences
  | emptyReference
  | repeatedReference (browser : Text)
  | targetAmongReferences (browser : Text)
  | zeroPageSize
  | pageSizeAbove (size limit : Nat)
  deriving DecidableEq

def ArgumentFault.message : ArgumentFault → String
  | parameterName name => "'" ++ String.ofList name ++ "' is not a valid parameter name"
  | windowOrder start stop =>
    "window start " ++ String.ofList start.rfc3339 ++ " must be before end "
      ++ String.ofList stop.rfc3339
  | noTarget => "target browser must not be empty"
  | noReferences => "at least one reference browser is required"
  | emptyReference => "reference browser names must not be empty"
  | repeatedReference browser =>
    "reference browser '" ++ String.ofList browser ++ "' is listed more than once"
  | targetAmongReferences browser =>
    "target browser '" ++ String.ofList browser ++ "' is also a reference browser"
  | zeroPageSize => "page size must be positive"
  | pageSizeAbove size limit =>
    "page size " ++ String.ofList (Decimal.ofNat size) ++ " exceeds the maximum of "
      ++ String.ofList (Decimal.ofNat limit)

/-- Why a query gave no page. -/
inductive QueryFault
  | cancelled
  | elapsed
  | outOfOrder (date previous : Instant)
  | store (reason : Text)
  deriving DecidableEq

def QueryFault.message : QueryFault → String
  | cancelled => "query cancelled"
  | elapsed => "deadline has elapsed"
  | outOfOrder date previous =>
    "rows out of order: " ++ String.ofList date.rfc3339 ++ " after "
      ++ String.ofList previous.rfc3339
  | store reason => String.ofList reason

/-- The columns of a result row. -/
inductive Column
  | releaseDate
  | count
  deriving DecidableEq, Repr

def Column.name : Column → String
  | releaseDate => "release_date"
  | count => "count"

/-- Why settings are refused. -/
inductive SettingsFault
  | noConnections
  | zeroDefaultPageSize
  | defaultAboveMax (default max : Nat)
  | zeroTimeout
  | document (mismatch : Document.Mismatch)
  | noDatabaseUrl
  deriving DecidableEq

def SettingsFault.message : SettingsFault → String
  | noConnections => "max_connections must be positive"
  | zeroDefaultPageSize => "default_page_size must be positive"
  | defaultAboveMax default max =>
    "default_page_size " ++ String.ofList (Decimal.ofNat default) ++ " exceeds max_page_size "
      ++ String.ofList (Decimal.ofNat max)
  | zeroTimeout => "query_timeout_secs must be positive"
  | document mismatch => "TOML parse error: " ++ mismatch.lastLine
  | noDatabaseUrl => "no database URL. Use --database-url or set FEATURELAG_DATABASE_URL"

/-- Why a file cannot be read as text. A system has reasons of its own for a
file that is there. -/
inductive FileFault
  | missing
  | unreadable (reason : Text)
  | notUtf8
  deriving DecidableEq, Repr

def FileFault.message : FileFault → String
  | missing => "No such file or directory (os error 2)"
  | unreadable reason => String.ofList reason
  | notUtf8 => "stream did not contain valid UTF-8"

/-- A failed operation. -/
inductive Error
  | template (e : Template.Error)
  | invalidArgument (fault : ArgumentFault)
  | invalidCursor (fault : Cursor.Fault)
  | queryExecution (fault : QueryFault)
  | rowMapping (column : Column) (reason : Text)
  | config (fault : SettingsFault)
  | io (fault : FileFault)
  deriving DecidableEq

namespace Error

/-- The text of an error. -/
def message : Error → String
  | template e => e.message
  | invalidArgument fault => "Invalid argument: " ++ fault.message
  | invalidCursor fault => "Invalid cursor: " ++ fault.message
  | queryExecution fault => "Query execution failed: " ++ fault.message
  | rowMapping column reason =>
    "Row mapping failed for column '" ++ column.name ++ "': " ++ String.ofList reason
  | config fault => "Configuration error: " ++ fault.message
  | io fault => "IO error: " ++ fault.message

/-- The text of what caused an error, where something beneath it did. -/
def source : Error → Option String
  | queryExecution fault => some fault.message
  | io fault => some fault.message
  | _ => none

/-- The request itself is at fault; sending it again will not help. -/
def isClientError : Error → Bool
  | invalidArgument _ => true
  | invalidCursor _ => true
  | _ => false

/-- The query was cut off, by its caller or by the clock. -/
def isCancelled : Error → Bool
  | queryExecution .cancelled => true
  | queryExecution .elapsed => true
  | _ => false

end Error

end ReleaseLag
