import ReleaseLag.Error

/-!
# `ReleaseLag.Paging.Outcome`: results in time

Work that waits on a store either comes to a result after some milliseconds
or never does. A limit and a cancellation each replace what comes too late;
work that is finished when the limit falls due is in time, and work that is
finished when it is cancelled is not.
-/

set_option autoImplicit false

namespace ReleaseLag

/-- When work is finished, and with what. -/
inductive Outcome (α : Type)
  | after (ms : Nat) (result : Except Error α)
  | never

namespace Outcome

variable {α β : Type}

/-- A result that is there at once. -/
def now (result : Except Error α) : Outcome α :=
  after 0 result

/-- The work, begun some time later. -/
def delay (ms : Nat) : Outcome α → Outcome α
  | after t result => after (ms + t) result
  | never => never

/-- The work with its good result changed. -/
def map (f : α → β) : Outcome α → Outcome β
  | after ms result => after ms (result.map f)
  | never => never

/-- The result in the end. Work that is never finished counts as out of
time. -/
def settled : Outcome α → Except Error α
  | after _ result => result
  | never => .error (.queryExecution .elapsed)

/-- The work, given up when a limit is passed. -/
def within (limit : Option Nat) (work : Outcome α) : Outcome α :=
  match limit, work with
  | none, _ => work
  | some limit, after ms result =>
    if ms ≤ limit then after ms result else after limit (.error (.queryExecution .elapsed))
  | some limit, never => after limit (.error (.queryExecution .elapsed))

/-- The work, unless it is cancelled before it is finished. -/
def unlessBy (cancel : Option Nat) (work : Outcome α) : Outcome α :=
  match cancel, work with
  | none, _ => work
  | some cancel, after ms result =>
    if ms < cancel then after ms result else after cancel (.error (.queryExecution .cancelled))
  | some cancel, never => after cancel (.error (.queryExecution .cancelled))

end Outcome

end ReleaseLag
