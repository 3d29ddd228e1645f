import ReleaseLag.Connection.Options
import ReleaseLag.Paging.Client

/-!
# `ReleaseLag.Cli.Server`: what is found behind a database URL

A server either cannot be reached or answers each query with the next of its
lists of replies. A URL that asks for no connection leads nowhere, whatever the
server. What a server receives of a statement is its positional form, with
moments as whole microseconds.
-/

set_option autoImplicit false

namespace ReleaseLag.Cli

/-- A value as a server receives it. -/
inductive WireValue
  | text (s : Text)
  | integer (n : Int)
  | micros (n : Int)
  deriving DecidableEq, Repr

/-- The form in which a value is sent. -/
def WireValue.ofParam : ParamValue → WireValue
  | .string s => text s
  | .int n => integer n
  | .timestamp t => micros t.microsSince2000

/-- A query as a server receives it: numbered placeholders and their values. -/
structure Query where
  sql : Text
  values : List WireValue
  deriving DecidableEq, Repr

/-- The form in which a statement is sent. -/
def Query.ofStatement (s : Statement) : Query where
  sql := s.positionalSql
  values := s.positionalParams.map WireValue.ofParam

/-- What a server sends for a query. A cell may be null. -/
inductive Reply
  | row (releaseDate : Option Instant) (count : Option Int)
  | fail (message : Text)
  deriving DecidableEq

/-- Why a null cell has no value. -/
def nullReason (column : Column) : Text :=
  "error occurred while decoding column \"".toList ++ column.name.toList
    ++ "\": unexpected null; try decoding as an `Option`".toList

/-- The value of a cell, or why there is none. -/
def cell {α : Type} (column : Column) : Option α → Except Text α
  | some value => .ok value
  | none => .error (nullReason column)

/-- A reply as the item of an answer. -/
def Reply.item : Reply → Item
  | row releaseDate count => .row ⟨cell .releaseDate releaseDate, cell .count count⟩
  | fail message =>
    .fail (.queryExecution (.store ("error returned from database: ".toList ++ message)))

/-- What is told of a connection on a machine that has no network, where no
name is looked up and nobody listens at a socket. -/
def noNetwork (options : Connection.Options) : Text :=
  let reason :=
    match options.target with
    | .socket => "No such file or directory (os error 2)"
    | .address => "Network is unreachable (os error 101)"
    | .name => "failed to lookup address information: Temporary failure in name resolution"
  "error communicating with database: ".toList ++ reason.toList

/-- What is found behind a database URL. Of one where no connection comes
about, `failure` is what is told, and it may depend on what was asked for. -/
inductive Server
  | unreachable (failure : Connection.Options → Text := noNetwork)
  | scripted (script : List (List Reply))

/-- The answers that a server has for queries, once a connection stands. -/
def Server.connect (server : Server) (url : Text) : Except Error (List (List Item)) :=
  match Connection.Options.read url with
  | .error fault => .error (.queryExecution (.store fault.message))
  | .ok options =>
    match server with
    | unreachable failure => .error (.queryExecution (.store (failure options)))
    | scripted script => .ok (script.map fun replies => replies.map Reply.item)

end ReleaseLag.Cli
