import ReleaseLag.Lagging.Record
import ReleaseLag.Paging.Outcome

/-!
# `ReleaseLag.Paging.Page`: pages from answers

A store answers a query with items one after the other: rows, a failure, or
time that passes. Rows become records as they come, and each has to be older
than the one before. The first item that gives no record ends the answer with
its error. A page that is full carries a token for the next one, even when no
row is left.
-/

set_option autoImplicit false

namespace ReleaseLag

/-- What a store sends next. -/
inductive Item
  | row (r : Row)
  | fail (e : Error)
  | wait (ms : Nat)
  | hang

/-- The records of a page, and the token of the next if there may be one. -/
structure Page where
  records : List Record
  nextToken : Option Text
  deriving DecidableEq

namespace Page

/-- A record is older than the one before it. -/
def checkOrder (previous : Option Instant) (r : Record) : Except Error Record :=
  match previous with
  | none => .ok r
  | some previous =>
    if r.releaseDate < previous then .ok r
    else .error (.queryExecution (.outOfOrder r.releaseDate previous))

/-- The records of an answer, after a record of a given date. -/
def collect (previous : Option Instant) : List Item → Outcome (List Record)
  | [] => .now (.ok [])
  | .wait ms :: items => (collect previous items).delay ms
  | .hang :: _ => .never
  | .fail e :: _ => .now (.error e)
  | .row r :: items =>
    match Record.ofRow r >>= checkOrder previous with
    | .error e => .now (.error e)
    | .ok record => (collect (some record.releaseDate) items).map (record :: ·)

/-- The page of records that were asked for in a given number. -/
def ofRecords (pageSize : Nat) (records : List Record) : Page where
  records := records
  nextToken :=
    match records.getLast? with
    | some last =>
      if records.length = pageSize then some (Cursor.encode last.releaseDate) else none
    | none => none

/-- The page of an answer. -/
def assemble (pageSize : Nat) (items : List Item) : Outcome Page :=
  (collect none items).map (ofRecords pageSize)

end Page

end ReleaseLag
