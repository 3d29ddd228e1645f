import ReleaseLag.Time.Calendar

/-!
# `ReleaseLag.Proofs.Time.Calendar`: the date of a day is the right one

`toDays_ofDays` says that the date of a day lies as many days after 1970-01-01
as the day, and `isCivil_ofDays` that the calendar has this date.

The calendar repeats every 400 years. Years of such an era begin in March here,
so a leap day is the last day of its year and nothing else depends on it.
`yearOfEra_eq` is where the work is. The year that a day lies in is found by one
division, once the leap days in front of the day are taken away as if there were
one in every 1460 days. A day is split into centuries, spans of four years and
days for that: the number of leap days taken away is off by one at most, and
only in the last year of a span.
-/

set_option autoImplicit false

namespace ReleaseLag.Proofs.Time

open ReleaseLag.Time (Date)
open ReleaseLag.Time.Date (isLeapYear daysInMonth ofDays)

/-- The calendar has a date. -/
def IsCivil (date : Date) : Prop :=
  1 ≤ date.day ∧ date.day ≤ daysInMonth date.year date.month

instance (date : Date) : Decidable (IsCivil date) :=
  inferInstanceAs (Decidable (_ ∧ _))

/-! ### Years of an era -/

/-- The year of an era that one of its days lies in. -/
def yearOfEra (day : Nat) : Nat :=
  (day - day / 1460 + day / 36524 - day / 146096) / 365

/-- The number of days of an era in front of one of its years. -/
def daysBefore (year : Nat) : Nat :=
  365 * year + year / 4 - year / 100

theorem daysBefore_eq {century span year : Nat} (hspan : span ≤ 24) (hyear : year ≤ 3) :
    daysBefore (100 * century + 4 * span + year)
      = 36524 * century + 1461 * span + 365 * year := by
  have hspans : (100 * century + 4 * span + year) / 4 = 25 * century + span := by omega
  have hcenturies : (100 * century + 4 * span + year) / 100 = century := by omega
  rw [daysBefore, hspans, hcenturies]
  omega

/-- The year of a day is that of its century, its span of four years and the
days behind them. The last day of a span is in its fourth year. -/
theorem yearOfEra_eq {century span day : Nat} (hcentury : century ≤ 3) (hspan : span ≤ 24)
    (hday : day ≤ 1460) (hshort : 1461 * span + day < 36524) :
    yearOfEra (36524 * century + 1461 * span + day)
      = 100 * century + 4 * span + min (day / 365) 3 := by
  have hera : (36524 * century + 1461 * span + day) / 146096 = 0 := by omega
  have hcenturies : (36524 * century + 1461 * span + day) / 36524 = century := by omega
  have hleap : (36524 * century + 1461 * span + day) / 1460
      = 25 * century + span + (24 * century + span + day) / 1460 := by omega
  rw [yearOfEra, hera, hcenturies, hleap]
  rcases Nat.lt_or_ge (24 * century + span + day) 1460 with hlt | hge
  · rw [Nat.div_eq_of_lt hlt]
    omega
  · -- One leap day too many is taken away, from a day well inside a fourth year.
    have hone : (24 * century + span + day) / 1460 = 1 := by omega
    rw [hone]
    omega

/-- A day of an era lies in a year of it. The last day of a leap year is the one
before March. -/
structure InYear (day year dayOfYear : Nat) : Prop where
  day_eq : day = daysBefore year + dayOfYear
  year_lt : year < 400
  dayOfYear_lt : dayOfYear < 366
  leap : dayOfYear = 365 → (year + 1) % 4 = 0 ∧ ((year + 1) % 100 ≠ 0 ∨ (year + 1) % 400 = 0)

/-- The year that is found is the one that a day lies in. -/
theorem inYear_yearOfEra {day : Nat} (h : day < 146097) :
    InYear day (yearOfEra day) (day - daysBefore (yearOfEra day)) := by
  rcases Nat.lt_or_eq_of_le (Nat.le_of_lt_succ h) with hlt | rfl
  · obtain ⟨century, span, left, rfl, hcentury, hspan, hleft, hshort⟩ :
        ∃ century span left, day = 36524 * century + 1461 * span + left ∧ century ≤ 3
          ∧ span ≤ 24 ∧ left ≤ 1460 ∧ 1461 * span + left < 36524 :=
      ⟨day / 36524, day % 36524 / 1461, day % 36524 % 1461, by omega, by omega, by omega,
        by omega, by omega⟩
    have hyear := yearOfEra_eq hcentury hspan hleft hshort
    have hbefore : daysBefore (100 * century + 4 * span + min (left / 365) 3)
        = 36524 * century + 1461 * span + 365 * min (left / 365) 3 :=
      daysBefore_eq hspan (Nat.min_le_right _ 3)
    rw [hyear]
    constructor
    case day_eq => omega
    case year_lt => omega
    case dayOfYear_lt => omega
    case leap =>
      intro hlast
      -- The day is the last of its span, and of no century.
      have hfourth : min (left / 365) 3 = 3 := by omega
      omega
  · -- The last day of an era is the last of a fourth century that is a day longer.
    exact ⟨by decide, by decide, by decide, by decide⟩

/-! ### Months of a year -/

/-- A year that begins in March as the calendar counts it: its last two months
are in the next year. -/
def dateIn (era : Int) (year dayOfYear : Nat) : Date :=
  let month := (5 * dayOfYear + 2) / 153
  let day := dayOfYear - (153 * month + 2) / 5 + 1
  if month < 10 then ⟨year + era * 400, month + 3, day⟩ else ⟨year + era * 400 + 1, month - 9, day⟩

/-- The date of a day is that of its year and its day in the year. -/
theorem ofDays_eq (days : Int) :
    ofDays days
      = dateIn ((days + 719468) / 146097) (yearOfEra ((days + 719468) % 146097).toNat)
          (((days + 719468) % 146097).toNat
            - daysBefore (yearOfEra ((days + 719468) % 146097).toNat)) := rfl

/-- The number of days of a month, counted from March, in a year that is a leap
year or not. -/
def monthLength (leap : Bool) (month : Nat) : Nat :=
  if month = 1 ∨ month = 3 ∨ month = 6 ∨ month = 8 then 30
  else if month = 11 then if leap then 29 else 28
  else 31

/-- A day of a year is a day of its month. -/
theorem month_bounds {dayOfYear : Nat} (h : dayOfYear < 366) :
    (5 * dayOfYear + 2) / 153 ≤ 11
      ∧ (153 * ((5 * dayOfYear + 2) / 153) + 2) / 5 ≤ dayOfYear
      ∧ dayOfYear - (153 * ((5 * dayOfYear + 2) / 153) + 2) / 5 + 1
        ≤ monthLength (dayOfYear = 365) ((5 * dayOfYear + 2) / 153) := by
  refine ⟨by omega, by omega, ?_⟩
  rw [monthLength]
  split
  · omega
  · split
    · split
      · omega
      · next hday =>
        have hday : dayOfYear ≠ 365 := by simpa using hday
        omega
    · omega

theorem monthLength_le (month : Nat) {leap leap' : Bool} (h : leap = true → leap' = true) :
    monthLength leap month ≤ monthLength leap' month := by
  have hlast : (if leap then 29 else 28) ≤ if leap' then 29 else 28 := by
    cases leap with
    | false => cases leap' <;> decide
    | true => exact Nat.le_of_eq (congrArg (fun long : Bool => if long then 29 else 28) (h rfl).symm)
  rw [monthLength, monthLength]
  split
  · exact Nat.le_refl _
  · split
    · exact hlast
    · exact Nat.le_refl _

/-- The months from March on, as the calendar numbers them. -/
theorem daysInMonth_of_lt (year : Int) (leap : Bool) {month : Nat} (h : month < 10) :
    daysInMonth year (month + 3) = monthLength leap month := by
  grind [daysInMonth, monthLength]

/-- January and February, as the calendar numbers them. -/
theorem daysInMonth_of_ge (year : Int) {month : Nat} (h : 10 ≤ month) (hle : month ≤ 11) :
    daysInMonth year (month - 9) = monthLength (isLeapYear year) month := by
  grind [daysInMonth, monthLength]

theorem isCivil_dateIn {day year dayOfYear : Nat} (h : InYear day year dayOfYear) (era : Int) :
    IsCivil (dateIn era year dayOfYear) := by
  obtain ⟨-, -, hlt, hleap⟩ := h
  obtain ⟨hmonth, -, hlength⟩ := month_bounds hlt
  simp only [dateIn]
  split
  · next hfirst =>
    refine ⟨Nat.le_add_left 1 _, ?_⟩
    rwa [daysInMonth_of_lt _ (dayOfYear = 365) hfirst]
  · next hlast =>
    refine ⟨Nat.le_add_left 1 _, ?_⟩
    have hyear : decide (dayOfYear = 365) = true → isLeapYear (year + era * 400 + 1) = true := by
      intro hday
      have := hleap (of_decide_eq_true hday)
      simp only [isLeapYear, Bool.and_eq_true, Bool.or_eq_true, decide_eq_true_eq]
      omega
    rw [daysInMonth_of_ge _ (Nat.le_of_not_lt hlast) hmonth]
    exact Nat.le_trans hlength (monthLength_le _ hyear)

/-- A date in an era lies as many days after the first one as the era and the
year have begun, and the day of the year more. -/
theorem toDays_dateIn {day year dayOfYear : Nat} (h : InYear day year dayOfYear) (era : Int) :
    (dateIn era year dayOfYear).toDays = era * 146097 + day - 719468 := by
  obtain ⟨hday, hyear, hlt, -⟩ := h
  obtain ⟨hmonth, hbegun, -⟩ := month_bounds hlt
  unfold daysBefore at hday
  simp only [dateIn]
  split
  · next hfirst =>
    simp only [Date.toDays]
    split
    · omega
    · omega
  · next hfirst =>
    simp only [Date.toDays]
    split
    · omega
    · omega

/-! ### Days and dates -/

/-- The date of a day lies as many days after 1970-01-01 as the day. -/
theorem toDays_ofDays (days : Int) : (ofDays days).toDays = days := by
  have hlt : ((days + 719468) % 146097).toNat < 146097 := by omega
  rw [ofDays_eq, toDays_dateIn (inYear_yearOfEra hlt)]
  omega

/-- The calendar has the date of a day. -/
theorem isCivil_ofDays (days : Int) : IsCivil (ofDays days) := by
  have hlt : ((days + 719468) % 146097).toNat < 146097 := by omega
  rw [ofDays_eq]
  exact isCivil_dateIn (inYear_yearOfEra hlt) _

end ReleaseLag.Proofs.Time
