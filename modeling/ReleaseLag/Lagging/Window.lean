import ReleaseLag.Error

/-!
# `ReleaseLag.Lagging.Window`: spans of time

A window has its start and not its end. A window may be written down with
the two in any order; `Window.check` refuses one that holds no instant.
-/

set_option autoImplicit false

namespace ReleaseLag

/-- The instants from `start` on and before `stop`. -/
structure Window where
  start : Instant
  stop : Instant
  deriving DecidableEq

namespace Window

/-- The start of a window lies before its end. -/
def check (w : Window) : Except Error Unit :=
  if w.start < w.stop then .ok ()
  else .error (.invalidArgument (.windowOrder w.start w.stop))

/-- The window between two instants. -/
def between (start stop : Instant) : Except Error Window := do
  let w : Window := ⟨start, stop⟩
  w.check
  return w

/-- An instant lies in a window. -/
def contains (w : Window) (t : Instant) : Bool :=
  w.start ≤ t && t < w.stop

open Document in
/-- The fields of a window as a document; others are passed over. -/
def shape : Json.Shape where
  name := "Window"
  fields := [("start".toList, .instant), ("end".toList, .instant)]
  closed := false

open Document in
/-- The window of a JSON document, in whatever order its ends are. -/
def ofJson (document : Bytes) : Except Mismatch Window := do
  match ← shape.read document with
  | [.instant start, .instant stop] => return ⟨start, stop⟩
  | _ => throw .malformed

end Window

end ReleaseLag
