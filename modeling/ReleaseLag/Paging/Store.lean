import ReleaseLag.Lagging.Query
import ReleaseLag.Paging.Page

/-!
# `ReleaseLag.Paging.Store`: what answers queries

A store is any rule that answers a statement, knowing the statements it was
asked before. A script answers whatever it is asked with the next of its
lists. A table keeps to what the statement binds: the window, the cursor and
the limit, newest rows first.
-/

set_option autoImplicit false

namespace ReleaseLag

/-- The statements a store was asked, oldest first. -/
abbrev Log := List Statement

/-- The rule by which a store answers. -/
structure Store where
  answer : Log → Statement → List Item

namespace Store

/-- Each query gets the next list, and nothing when there are no more. -/
def ofScript (script : List (List Item)) : Store where
  answer log _ := (script[log.length]?).getD []

/-- The moment that a statement binds to a name. -/
def boundInstant? (s : Statement) (name : ParamName) : Option Instant :=
  match s.param? name.text with
  | some (.timestamp t) => some t
  | _ => none

/-- The number that a statement binds to a name. -/
def boundInt? (s : Statement) (name : ParamName) : Option Int :=
  match s.param? name.text with
  | some (.int n) => some n
  | _ => none

/-- A row of a table. It has a date, and a count that may not be readable. -/
structure Entry where
  releaseDate : Instant
  count : Except Text Int

namespace Entry

/-- A record as it stands in a table. -/
def ofRecord (r : Record) : Entry :=
  ⟨r.releaseDate, .ok r.count⟩

/-- A row of a table as an item of an answer. -/
def item (e : Entry) : Item :=
  .row ⟨.ok e.releaseDate, e.count⟩

end Entry

/-- A statement asks for rows of this date: from the bound start on, before
the bound end and, where a cursor is bound, before it. -/
def selects (s : Statement) (date : Instant) : Bool :=
  (boundInstant? s Lagging.startParam).all (· ≤ date)
    && (boundInstant? s Lagging.endParam).all (date < ·)
    && (boundInstant? s Lagging.cursorParam).all (date < ·)

/-- The rows that a statement asks for, newest first, up to the bound limit.
Rows of one date keep their order. -/
def select (table : List Entry) (s : Statement) : List Entry :=
  let rows := (table.filter fun e => selects s e.releaseDate).mergeSort fun a b =>
    b.releaseDate ≤ a.releaseDate
  match boundInt? s Lagging.limitParam with
  | some limit => rows.take limit.toNat
  | none => rows

/-- The store of a table that may change from query to query: the table that
is in force depends on how many queries came before. -/
def ofTables (tables : Nat → List Entry) : Store where
  answer log s := (select (tables log.length) s).map Entry.item

/-- The store of a table. -/
def ofTable (table : List Entry) : Store :=
  ofTables fun _ => table

end Store

end ReleaseLag
