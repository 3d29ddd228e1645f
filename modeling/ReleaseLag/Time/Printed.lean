import ReleaseLag.Time.Instant
import ReleaseLag.Decimal

/-!
# `ReleaseLag.Time.Printed`: instants as text

The written form is that of RFC 3339 in universal time. The fraction has
none, three, six or nine digits, the fewest that are exact. Years from 0 to
9999 have four digits; others carry a sign. A leap second is written as
second 60.
-/

set_option autoImplicit false

namespace ReleaseLag

namespace Time.Date

/-- Four digits, or a sign and at least four. -/
def yearText (year : Int) : Text :=
  if 0 ≤ year ∧ year ≤ 9999 then Decimal.padded 4 year.toNat
  else (if year < 0 then '-' else '+') :: Decimal.padded 4 year.natAbs

/-- The date as year, month and day. -/
def text (date : Date) : Text :=
  yearText date.year ++ '-' :: Decimal.padded 2 date.month ++ '-' :: Decimal.padded 2 date.day

end Time.Date

namespace Instant

/-- The day an instant lies in. -/
def date (t : Instant) : Time.Date :=
  .ofDays (t.secs / 86400)

/-- A point and the shortest exact fraction, or nothing for a whole second. -/
def fractionText (nanos : Nat) : Text :=
  if nanos = 0 then []
  else if nanos % 1000000 = 0 then '.' :: Decimal.padded 3 (nanos / 1000000)
  else if nanos % 1000 = 0 then '.' :: Decimal.padded 6 (nanos / 1000)
  else '.' :: Decimal.padded 9 nanos

/-- Date and time of day with a given spelling of the zone. -/
def text (t : Instant) (zone : Text) : Text :=
  let second := (t.secs % 86400).toNat
  t.date.text ++ 'T' :: Decimal.padded 2 (second / 3600)
    ++ ':' :: Decimal.padded 2 (second / 60 % 60)
    ++ ':' :: Decimal.padded 2 (second % 60 + t.nanos / 1000000000)
    ++ fractionText (t.nanos % 1000000000) ++ zone

/-- The form with the zone as an offset, used in messages. -/
def rfc3339 (t : Instant) : Text :=
  t.text ['+', '0', '0', ':', '0', '0']

/-- The form with the zone as a letter, used in documents. -/
def json (t : Instant) : Text :=
  t.text ['Z']

end Instant

end ReleaseLag
