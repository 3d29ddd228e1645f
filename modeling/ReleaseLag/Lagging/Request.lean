import ReleaseLag.Lagging.Window

/-!
# `ReleaseLag.Lagging.Request`: what a caller asks for

A request names a target browser, the reference browsers, a window and the
size of a page, and may carry the token of the page before. `Request.check`
looks at everything but the token; `Request.cursor` reads the token and asks
that it lie in the window.
-/

set_option autoImplicit false

namespace ReleaseLag

/-- A request for one page. A token is meant for the request that it was
issued for; it does not say which one that was. -/
structure Request where
  target : Text
  references : List Text
  window : Window
  pageSize : Nat
  token : Option Text
  deriving DecidableEq

namespace Request

/-- The first reference that is empty or was listed before. -/
def checkReferences (seen : List Text) : List Text → Except ArgumentFault Unit
  | [] => .ok ()
  | browser :: rest =>
    if browser.isEmpty then .error .emptyReference
    else if browser ∈ seen then .error (.repeatedReference browser)
    else checkReferences (browser :: seen) rest

/-- The names of the browsers. -/
def checkBrowsers (r : Request) : Except ArgumentFault Unit := do
  if r.target.isEmpty then throw .noTarget
  if r.references.isEmpty then throw .noReferences
  checkReferences [] r.references
  if r.target ∈ r.references then throw (.targetAmongReferences r.target)

/-- The size of the page. -/
def checkPageSize (r : Request) (maxPageSize : Nat) : Except ArgumentFault Unit := do
  if r.pageSize = 0 then throw .zeroPageSize
  if maxPageSize < r.pageSize then throw (.pageSizeAbove r.pageSize maxPageSize)

/-- Everything but the token: browsers, page size, window, in this order. -/
def check (r : Request) (maxPageSize : Nat) : Except Error Unit := do
  r.checkBrowsers.mapError .invalidArgument
  (r.checkPageSize maxPageSize).mapError .invalidArgument
  r.window.check

/-- The instant that the page before ended at, if there is a token. -/
def cursor (r : Request) : Except Error (Option Instant) :=
  match r.token with
  | none => .ok none
  | some token => do
    let t ← (Cursor.decode token).mapError .invalidCursor
    if r.window.contains t then return some t
    else throw (.invalidCursor .outsideWindow)

end Request

end ReleaseLag
