import ReleaseLag.Error

/-!
# `ReleaseLag.Settings.Basic`: settings and how they are put together

Settings say where the database is, how many rows a page has by default and
at most, and how long one page may take. `Settings.check` refuses settings
that no request could be served with. The setters of a `Change` may come in
any order; only the last one for each field counts.
-/

set_option autoImplicit false

namespace ReleaseLag

/-- The settings of a client. Without a timeout a page may take any time. -/
structure Settings where
  databaseUrl : Option Text
  maxConnections : Nat
  defaultPageSize : Nat
  maxPageSize : Nat
  queryTimeoutSecs : Option Nat
  deriving DecidableEq

namespace Settings

/-- The settings where nothing else is said. -/
def default : Settings where
  databaseUrl := none
  maxConnections := 5
  defaultPageSize := 100
  maxPageSize := 1000
  queryTimeoutSecs := some 30

/-- The first condition that settings break. -/
def check (s : Settings) : Except Error Unit := do
  if s.maxConnections = 0 then
    throw (.config .noConnections)
  if s.defaultPageSize = 0 then
    throw (.config .zeroDefaultPageSize)
  if s.maxPageSize < s.defaultPageSize then
    throw (.config (.defaultAboveMax s.defaultPageSize s.maxPageSize))
  if s.queryTimeoutSecs = some 0 then
    throw (.config .zeroTimeout)

/-- A span of time: seconds and nanoseconds, of which there may be more than
make a second. -/
structure Span where
  secs : Nat
  nanos : Nat
  deriving DecidableEq, Repr

/-- All of a span in nanoseconds. -/
def Span.totalNanos (d : Span) : Nat :=
  d.secs * 1000000000 + d.nanos

/-- The least number of whole seconds that is no shorter. -/
def Span.wholeSecs (d : Span) : Nat :=
  d.secs + (d.nanos + 999999999) / 1000000000

/-- A number of seconds is no shorter than a span exactly from its whole
seconds on. -/
theorem Span.wholeSecs_le_iff (d : Span) (secs : Nat) :
    d.wholeSecs ≤ secs ↔ d.totalNanos ≤ secs * 1000000000 := by
  unfold wholeSecs totalNanos
  omega

/-- One setting made by hand. -/
inductive Change
  | database (url : Text)
  | maxConnections (n : Nat)
  | defaultPageSize (n : Nat)
  | maxPageSize (n : Nat)
  | queryTimeout (limit : Option Span)
  deriving DecidableEq

/-- The settings with one of them changed. -/
def apply (s : Settings) : Change → Settings
  | .database url => { s with databaseUrl := some url }
  | .maxConnections n => { s with maxConnections := n }
  | .defaultPageSize n => { s with defaultPageSize := n }
  | .maxPageSize n => { s with maxPageSize := n }
  | .queryTimeout limit => { s with queryTimeoutSecs := limit.map Span.wholeSecs }

/-- The settings after changes to the default ones, if they can be served. -/
def build (changes : List Change) : Except Error Settings := do
  let s := changes.foldl apply default
  s.check
  return s

end Settings

end ReleaseLag
