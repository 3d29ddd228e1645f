import ReleaseLag.Cli.Usage
import ReleaseLag.Document.Mismatch

/-!
# `ReleaseLag.Cli.Value`: values of options

Times are a date or an instant in the strict form. A page size is a decimal
number with an optional sign; a number that is too long for 64 bits is told
apart from one that is no page size.
-/

set_option autoImplicit false

namespace ReleaseLag.Cli

/-- How a page of records is printed. -/
inductive Format
  | table
  | json
  deriving DecidableEq, Repr

/-- The format of a word. -/
def Format.ofWord? (word : Text) : Option Format :=
  if word = "table".toList then some table
  else if word = "json".toList then some json
  else none

namespace Value

/-- The instant of a date or of the strict form. -/
def instant (s : Text) : Except ValueFault Instant :=
  match Time.date? s with
  | some t => .ok t
  | none => (Time.rfc3339 s).mapError (.timestamp s)

/-- A page size, zero among them. -/
def pageSize (s : Text) : Except ValueFault Nat := do
  let n ← (Numeral.signed s).mapError .numeral
  if Document.Range.u32.holds n then return n.toNat
  else throw (.outside n Document.Range.u32.low.toNat Document.Range.u32.high.toNat)

end Value

end ReleaseLag.Cli
