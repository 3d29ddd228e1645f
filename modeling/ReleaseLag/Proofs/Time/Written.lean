import ReleaseLag.Proofs.Text.Numerals
import ReleaseLag.Proofs.Time.Calendar
import ReleaseLag.Time.Printed
import ReleaseLag.Time.Reader

/-!
# `ReleaseLag.Proofs.Time.Written`: what a written moment names

`IsMoment` says which texts are a moment, without a word about division: fields
for a date that the calendar has and for a time of day, which the reader takes
for this moment, and the shortest exact fraction. `IsDayOf` says the same of a
date alone, that the moment lies in its day.

Every instant is printed so (`isMoment_text`, `isDayOf_date`). That the printed
date is the right one is `toDays_ofDays`.
-/

set_option autoImplicit false

namespace ReleaseLag.Proofs.Time

open ReleaseLag.Time (Date instantAt? isTimeOfDay)
open ReleaseLag.Proofs.Text

/-! ### Dates -/

/-- A year up to 9999 is four digits. An earlier or later one has a sign, and
more digits if it needs them. -/
inductive IsYear : Int → Text → Prop
  | near {year : Nat} {s : Text} (hle : year ≤ 9999) (h : IsField 4 year s) : IsYear year s
  | later {year : Nat} {s : Text} (hlt : 9999 < year) (h : IsField 4 year s) :
      IsYear year ('+' :: s)
  | earlier {year : Nat} {s : Text} (hpos : 0 < year) (h : IsField 4 year s) :
      IsYear (-year) ('-' :: s)

/-- A date is its year, month and day with hyphens between them. -/
inductive IsDate (date : Date) : Text → Prop
  | intro {year month day : Text} (hyear : IsYear date.year year)
      (hmonth : IsField 2 date.month month) (hday : IsField 2 date.day day) :
      IsDate date (year ++ '-' :: month ++ '-' :: day)

/-- The date of the day that a moment lies in. -/
def IsDayOf (t : Instant) (s : Text) : Prop :=
  ∃ date : Date, IsCivil date ∧ date.toDays * 86400 ≤ t.secs
    ∧ t.secs < date.toDays * 86400 + 86400 ∧ IsDate date s

theorem isYear_yearText (year : Int) : IsYear year (Date.yearText year) := by
  have hfield : ∀ n, IsField 4 n (Decimal.padded 4 n) := isField_padded (by decide)
  unfold Date.yearText
  rcases Int.lt_or_le year 0 with hneg | hnonneg
  · have hmagnitude : year = -(year.natAbs : Int) := by omega
    rw [if_neg (by omega), if_pos hneg, hmagnitude, Int.natAbs_neg, Int.natAbs_natCast]
    exact .earlier (by omega) (hfield _)
  · obtain ⟨n, rfl⟩ := Int.eq_ofNat_of_zero_le hnonneg
    rcases Nat.lt_or_ge 9999 n with hlt | hle
    · rw [if_neg (by omega), if_neg (by omega), Int.natAbs_natCast]
      exact .later hlt (hfield n)
    · rw [if_pos (by omega), Int.toNat_natCast]
      exact .near hle (hfield n)

theorem isDate_text (date : Date) : IsDate date date.text :=
  .intro (isYear_yearText date.year) (isField_padded (by decide) _) (isField_padded (by decide) _)

/-- The date of an instant is the date of its day. -/
theorem isDayOf_date (t : Instant) : IsDayOf t t.date.text := by
  have hdays : t.date.toDays = t.secs / 86400 := toDays_ofDays _
  exact ⟨t.date, isCivil_ofDays _, by omega, by omega, isDate_text _⟩

/-! ### Moments -/

/-- A fraction of a second is nothing, or a point and one, two or three groups of
three digits. The last group is not zero. -/
inductive IsFraction : Nat → Text → Prop
  | whole : IsFraction 0 []
  | digits {value groups : Nat} {s : Text} (h : IsField (3 * groups) value s)
      (hlength : s.length = 3 * groups) (hgroups : 1 ≤ groups) (hle : groups ≤ 3)
      (hlast : value % 1000 ≠ 0) : IsFraction (value * Nat.pow 1000 (3 - groups)) ('.' :: s)

/-- A moment is a date, a time of day, a fraction of a second and a zone. The
reader takes the numbers in it, at no offset, for the moment. -/
inductive IsMoment (t : Instant) (zone : Text) : Text → Prop
  | intro {date : Date} {hour minute second nanos : Nat}
      {day hours minutes seconds fraction : Text} (hcivil : IsCivil date)
      (htime : isTimeOfDay hour minute second = true)
      (hat : instantAt? date hour minute second nanos 0 = some t) (hday : IsDate date day)
      (hhours : IsField 2 hour hours) (hminutes : IsField 2 minute minutes)
      (hseconds : IsField 2 second seconds) (hfraction : IsFraction nanos fraction) :
      IsMoment t zone
        (day ++ 'T' :: hours ++ ':' :: minutes ++ ':' :: seconds ++ fraction ++ zone)

theorem isFraction_padded (groups : Nat) {nanos value : Nat} (hgroups : 1 ≤ groups)
    (hle : groups ≤ 3) (hlt : value < Nat.pow 10 (3 * groups)) (hlast : value % 1000 ≠ 0)
    (hvalue : value * Nat.pow 1000 (3 - groups) = nanos) :
    IsFraction nanos ('.' :: Decimal.padded (3 * groups) value) := by
  have hwidth : 0 < 3 * groups := by omega
  exact hvalue ▸ .digits (isField_padded hwidth value) (Decimal.length_padded_of_lt hwidth hlt)
    hgroups hle hlast

theorem isFraction_fractionText {nanos : Nat} (h : nanos < 1000000000) :
    IsFraction nanos (Instant.fractionText nanos) := by
  unfold Instant.fractionText
  split
  · next hzero => exact hzero ▸ .whole
  · split
    · have hvalue : nanos / 1000000 * 1000000 = nanos := by omega
      exact isFraction_padded 1 (by decide) (by decide) (Nat.div_lt_of_lt_mul h) (by omega) hvalue
    · split
      · have hvalue : nanos / 1000 * 1000 = nanos := by omega
        exact isFraction_padded 2 (by decide) (by decide) (Nat.div_lt_of_lt_mul h) (by omega) hvalue
      · exact isFraction_padded 3 (by decide) (by decide) h (by omega) (Nat.mul_one nanos)

/-- The numbers that an instant is printed with are its own: its day, and what is
left of it divided into hours, minutes and seconds. -/
theorem instantAt?_date (t : Instant) {second : Nat} (h : second = (t.secs % 86400).toNat) :
    instantAt? t.date (second / 3600) (second / 60 % 60) (second % 60 + t.nanos / 1000000000)
      (t.nanos % 1000000000) 0 = some t := by
  have hdays : t.date.toDays = t.secs / 86400 := toDays_ofDays _
  have hminute : t.date.toDays * 86400 + (second / 3600 : Nat) * 3600
      + (second / 60 % 60 : Nat) * 60 - 0 * 60 = t.secs - (second % 60 : Nat) := by omega
  obtain ⟨-, -, hnanos⟩ := t.admitted
  have hself := Instant.ofUnix?_self t
  rw [instantAt?, hminute]
  rcases Nat.lt_or_ge t.nanos 1000000000 with hlt | hge
  · have hsecond : second % 60 + t.nanos / 1000000000 ≠ 60 := by omega
    have hsecs : t.secs - (second % 60 : Nat) + (second % 60 + t.nanos / 1000000000 : Nat)
        = t.secs := by omega
    have hwhole : t.nanos % 1000000000 = t.nanos := Nat.mod_eq_of_lt hlt
    rw [if_neg hsecond, hsecs, hwhole, hself]
  · -- A leap second is second 60 of a minute whose last second is the instant's.
    have hsecond : second % 60 + t.nanos / 1000000000 = 60 := by omega
    have hsecs : t.secs - (second % 60 : Nat) + 59 = t.secs := by omega
    have hmore : t.nanos % 1000000000 + 1000000000 = t.nanos := by omega
    rw [if_pos hsecond, hsecs, hmore, hself]

/-- An instant is printed as a moment, whatever the spelling of its zone. -/
theorem isMoment_text (t : Instant) (zone : Text) : IsMoment t zone (t.text zone) := by
  have hfield : ∀ n, IsField 2 n (Decimal.padded 2 n) := isField_padded (by decide)
  obtain ⟨-, -, hnanos⟩ := t.admitted
  have htime : isTimeOfDay ((t.secs % 86400).toNat / 3600) ((t.secs % 86400).toNat / 60 % 60)
      ((t.secs % 86400).toNat % 60 + t.nanos / 1000000000) = true := by
    simp only [isTimeOfDay, Bool.and_eq_true, decide_eq_true_eq]
    omega
  exact .intro (isCivil_ofDays _) htime (instantAt?_date t rfl) (isDate_text _) (hfield _)
    (hfield _) (hfield _) (isFraction_fractionText (Nat.mod_lt _ (by decide)))

end ReleaseLag.Proofs.Time
