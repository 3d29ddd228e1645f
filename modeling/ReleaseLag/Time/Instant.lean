import ReleaseLag.Time.Calendar

/-!
# `ReleaseLag.Time.Instant`: points in time

An instant is a number of seconds since 1970-01-01T00:00:00Z and a number of
nanoseconds. Nanoseconds from 10⁹ up to twice that stand for a leap second
and are admitted only in the last second of a minute. Instants are ordered by
seconds, then nanoseconds, so a leap second lies between its minute and the
next; the order is total (`lt_trichotomy`). The bounds keep every instant
within the years of `Date`.
-/

set_option autoImplicit false

namespace ReleaseLag

/-- The seconds of -262143-01-01T00:00:00 and of +262142-12-31T23:59:59. -/
def Instant.minSecs : Int := -8334601228800

@[inherit_doc Instant.minSecs]
def Instant.maxSecs : Int := 8210266876799

/-- The pairs of seconds and nanoseconds that are instants. -/
def Instant.Admits (secs : Int) (nanos : Nat) : Prop :=
  minSecs ≤ secs ∧ secs ≤ maxSecs
    ∧ (nanos < 1000000000 ∨ nanos < 2000000000 ∧ secs % 60 = 59)

instance (secs : Int) (nanos : Nat) : Decidable (Instant.Admits secs nanos) :=
  inferInstanceAs (Decidable (_ ∧ _ ∧ (_ ∨ _ ∧ _)))

/-- A point in time. -/
@[ext]
structure Instant where
  secs : Int
  nanos : Nat
  admitted : Instant.Admits secs nanos
  deriving DecidableEq

namespace Instant

/-- The instant of a pair, if it is one. -/
def ofUnix? (secs : Int) (nanos : Nat) : Option Instant :=
  if h : Admits secs nanos then some ⟨secs, nanos, h⟩ else none

theorem ofUnix?_self (t : Instant) : ofUnix? t.secs t.nanos = some t := by
  simp [ofUnix?, t.admitted]

instance : LT Instant where
  lt a b := a.secs < b.secs ∨ a.secs = b.secs ∧ a.nanos < b.nanos

instance : LE Instant where
  le a b := a.secs < b.secs ∨ a.secs = b.secs ∧ a.nanos ≤ b.nanos

instance (a b : Instant) : Decidable (a < b) :=
  inferInstanceAs (Decidable (_ ∨ _ ∧ _))

instance (a b : Instant) : Decidable (a ≤ b) :=
  inferInstanceAs (Decidable (_ ∨ _ ∧ _))

/-! ### The order -/

theorem lt_iff {a b : Instant} :
    a < b ↔ a.secs < b.secs ∨ a.secs = b.secs ∧ a.nanos < b.nanos := Iff.rfl

theorem le_iff {a b : Instant} :
    a ≤ b ↔ a.secs < b.secs ∨ a.secs = b.secs ∧ a.nanos ≤ b.nanos := Iff.rfl

theorem lt_irrefl (a : Instant) : ¬a < a := by
  rw [lt_iff]
  omega

theorem lt_trans {a b c : Instant} (hab : a < b) (hbc : b < c) : a < c := by
  rw [lt_iff] at *
  omega

/-- Of two instants, one is before the other unless they are the same. -/
theorem lt_trichotomy (a b : Instant) : a < b ∨ a = b ∨ b < a := by
  rw [lt_iff, lt_iff, Instant.ext_iff]
  omega

theorem not_lt {a b : Instant} : ¬a < b ↔ b ≤ a := by
  rw [lt_iff, le_iff]
  omega

/-! ### Other scales -/

/-- The instant a date's day begins at. -/
def ofDate? (date : Time.Date) : Option Instant :=
  ofUnix? (date.toDays * 86400) 0

/-- Whole microseconds from 2000-01-01T00:00:00Z, cut off toward that moment.
A leap second runs on into the next minute. -/
def microsSince2000 (t : Instant) : Int :=
  Int.tdiv ((t.secs - 946684800) * 1000000000 + t.nanos) 1000

end Instant

end ReleaseLag
