import ReleaseLag.Error

/-!
# `ReleaseLag.Lagging.Record`: counts by release date

A record says how many features the target browser lacked on a release date
that every reference browser had by then. A row of a result becomes a record
if both its cells can be read; the date is looked at first.
-/

set_option autoImplicit false

namespace ReleaseLag

/-- The number of lagging features as of a release date. -/
structure Record where
  releaseDate : Instant
  count : Int
  deriving DecidableEq

/-- A row of a result. A cell that cannot be read says why. -/
structure Row where
  releaseDate : Except Text Instant
  count : Except Text Int

/-- The value of a cell. -/
def Row.cell {α : Type} (column : Column) : Except Text α → Except Error α
  | .ok value => .ok value
  | .error reason => .error (.rowMapping column reason)

namespace Record

/-- The record of a row. -/
def ofRow (row : Row) : Except Error Record := do
  let releaseDate ← Row.cell .releaseDate row.releaseDate
  let count ← Row.cell .count row.count
  return { releaseDate, count }

open Document in
/-- The fields of a record as a document; others are passed over. -/
def shape : Json.Shape where
  name := "Record"
  fields := [("release_date".toList, .instant), ("count".toList, .integer .i64)]
  closed := false

open Document in
/-- The record of a JSON document. -/
def ofJson (document : Bytes) : Except Mismatch Record := do
  match ← shape.read document with
  | [.instant releaseDate, .integer count] => return { releaseDate, count }
  | _ => throw .malformed

end Record

end ReleaseLag
