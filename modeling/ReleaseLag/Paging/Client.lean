import ReleaseLag.Paging.Store
import ReleaseLag.Settings.Basic

/-!
# `ReleaseLag.Paging.Client`: pages for requests

A client turns a request into a statement, asks a store and assembles its
answer, within the time that one page may take. A request that is refused is
never sent. `Client.page` gives one page, `Client.pageUnless` one that can be
cancelled, and `Client.pages` follows the tokens from page to page. The log
holds what the store was asked.
-/

set_option autoImplicit false

namespace ReleaseLag

/-- The bounds a client keeps to. -/
structure Client where
  maxPageSize : Nat
  timeoutMs : Option Nat
  deriving DecidableEq

namespace Client

/-- The client of some settings. They are checked again, and the template has
to compile. -/
def ofSettings (s : Settings) : Except Error Client := do
  s.check
  let _ ← Lagging.template.mapError .template
  return { maxPageSize := s.maxPageSize, timeoutMs := s.queryTimeoutSecs.map (· * 1000) }

/-- The statement of a request, without asking for its answer. -/
def statement (c : Client) (r : Request) : Except Error Statement :=
  Lagging.statement r c.maxPageSize

/-- One page of a request. -/
def page (c : Client) (store : Store) (log : Log) (r : Request) : Outcome Page × Log :=
  match c.statement r with
  | .error e => (.now (.error e), log)
  | .ok s => ((Page.assemble r.pageSize (store.answer log s)).within c.timeoutMs, log ++ [s])

/-- One page of a request, unless it is cancelled first. Nothing is asked if
it is cancelled from the start. -/
def pageUnless (cancel : Option Nat) (c : Client) (store : Store) (log : Log) (r : Request) :
    Outcome Page × Log :=
  if cancel = some 0 then (.now (.error (.queryExecution .cancelled)), log)
  else
    let (work, log) := c.page store log r
    (work.unlessBy cancel, log)

/-- The records of all pages from a request on, of so many pages at most. An
error leaves none of them. `none` says that the pages did not end. -/
def pages (c : Client) (store : Store) :
    Nat → Log → Request → Option (Outcome (List Record)) × Log
  | 0, log, _ => (none, log)
  | more + 1, log, r =>
    match c.page store log r with
    | (.never, log) => (some .never, log)
    | (.after ms (.error e), log) => (some (.after ms (.error e)), log)
    | (.after ms (.ok page), log) =>
      match page.nextToken with
      | none => (some (.after ms (.ok page.records)), log)
      | some token =>
        let (rest, log) := pages c store more log { r with token := some token }
        (rest.map fun work => (work.map (page.records ++ ·)).delay ms, log)

end Client

end ReleaseLag
