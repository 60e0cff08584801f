/-
  CivilTime.CivilDate — a day of the calendar, without a time zone.

  A date is its day number; year, month, day of the month, day of the year and week are read off
  it. The calendar runs from the first day of year 1 to the last day of year 9999, and no value
  of the type lies outside. Each of the three ways to name a date (`ofYmd`, `ofOrdinal`, `ofWeek`)
  answers `Failure.invalidDate` where no such day exists.

  `ofYmd_year_month_day`, `ofOrdinal_ordinal`: the fields of a date name the date again.
-/

import CivilTime.Calendar
import CivilTime.Failure

namespace CivilTime

open Calendar

/-- A day from 0001-01-01 (day 1) to 9999-12-31 (day 3652059). -/
structure CivilDate where
  dayNumber : Int
  one_le : 1 ≤ dayNumber
  le_last : dayNumber ≤ 3652059
  deriving DecidableEq

namespace CivilDate

theorem ext {a b : CivilDate} (h : a.dayNumber = b.dayNumber) : a = b := by
  cases a; cases b; simp_all

/-! ## Naming a date -/

def ofDayNumber? (n : Int) : Option CivilDate :=
  if h : 1 ≤ n ∧ n ≤ 3652059 then some ⟨n, h.1, h.2⟩ else none

/-- The date of a day number that a condition on fields has already let through. -/
def named (valid : Prop) [Decidable valid] (n : Int) : Except Failure CivilDate :=
  if valid then
    match ofDayNumber? n with
    | some d => .ok d
    | none => .error .invalidDate
  else .error .invalidDate

def ofYmd (y m d : Int) : Except Failure CivilDate :=
  named ((1 ≤ y ∧ y ≤ 9999) ∧ (1 ≤ m ∧ m ≤ 12) ∧ 1 ≤ d ∧ d ≤ daysInMonth y m)
    (Calendar.dayNumber y m d)

def ofOrdinal (y k : Int) : Except Failure CivilDate :=
  named ((1 ≤ y ∧ y ≤ 9999) ∧ 1 ≤ k ∧ k ≤ yearLength y) (daysBeforeYear y + k)

/-- The day with this number (1 for Monday) of a week of a week-counting year. The last week of
year 9999 is cut off where the calendar ends. -/
def ofWeek (y w d : Int) : Except Failure CivilDate :=
  named ((1 ≤ y ∧ y ≤ 9999) ∧ (1 ≤ w ∧ w ≤ weeksInYear y) ∧ 1 ≤ d ∧ d ≤ 7)
    (firstMonday y + 7 * (w - 1) + (d - 1))

/-! ## Reading a date -/

def year (d : CivilDate) : Int := yearOfDay d.dayNumber

def ordinal (d : CivilDate) : Int := d.dayNumber - daysBeforeYear d.year

def month (d : CivilDate) : Int := monthOfOrdinal d.year d.ordinal

def day (d : CivilDate) : Int := d.ordinal - daysBeforeMonth d.year d.month

def weekday (d : CivilDate) : Int := Calendar.weekday d.dayNumber

def isoWeek (d : CivilDate) : Int × Int := Calendar.isoWeek d.dayNumber

/-! ## A date has the fields that name it -/

theorem year_bounds (d : CivilDate) : 1 ≤ d.year ∧ d.year ≤ 9999 := by
  have lo := d.one_le; have hi := d.le_last
  have h1 : daysBeforeYear 1 = 0 := rfl
  have h2 : daysBeforeYear 10000 = 3652059 := rfl
  have a := daysBeforeYear_yearOfDay_lt d.dayNumber
  have b := le_daysBeforeYear_yearOfDay_succ d.dayNumber
  unfold year
  constructor
  · rcases Int.lt_or_le (yearOfDay d.dayNumber) 1 with h | h
    · have := daysBeforeYear_mono (a := yearOfDay d.dayNumber + 1) (b := 1) h; omega
    · exact h
  · rcases Int.lt_or_le 9999 (yearOfDay d.dayNumber) with h | h
    · have := daysBeforeYear_mono (a := 10000) (b := yearOfDay d.dayNumber) h; omega
    · exact h

theorem ordinal_bounds (d : CivilDate) : 1 ≤ d.ordinal ∧ d.ordinal ≤ yearLength d.year := by
  have a := daysBeforeYear_yearOfDay_lt d.dayNumber
  have b := le_daysBeforeYear_yearOfDay_succ d.dayNumber
  rw [daysBeforeYear_succ] at b
  unfold ordinal year
  omega

theorem ofDayNumber?_dayNumber (d : CivilDate) : ofDayNumber? d.dayNumber = some d := by
  simp [ofDayNumber?, d.one_le, d.le_last]

/-- Where the condition on the fields holds the date is the one with the day number. -/
theorem named_eq_ok_iff {valid : Prop} [Decidable valid] {n : Int} {d : CivilDate} :
    named valid n = .ok d ↔ valid ∧ d.dayNumber = n := by
  unfold named
  constructor
  · intro h
    split at h
    · rename_i ok
      refine ⟨ok, ?_⟩
      unfold ofDayNumber? at h
      split at h
      · rename_i found
        split at found
        · cases found
          cases h
          rfl
        · cases found
      · cases h
    · cases h
  · rintro ⟨ok, rfl⟩
    rw [if_pos ok, ofDayNumber?_dayNumber]

theorem named_eq_error {valid : Prop} [Decidable valid] {n : Int} {f : Failure} (h : named valid n = .error f) :
    f = .invalidDate := by
  unfold named at h
  split at h
  · split at h <;> cases h
    rfl
  · cases h
    rfl

/-- A year and a day of it name the date they are read off. -/
theorem ofOrdinal_ordinal (d : CivilDate) : ofOrdinal d.year d.ordinal = .ok d := by
  have h : daysBeforeYear d.year + d.ordinal = d.dayNumber := by unfold ordinal; omega
  simp [ofOrdinal, named, d.year_bounds, d.ordinal_bounds, h, ofDayNumber?_dayNumber]

theorem month_bounds (d : CivilDate) : 1 ≤ d.month ∧ d.month ≤ 12 :=
  monthOfOrdinal_bounds d.ordinal_bounds.1 d.ordinal_bounds.2

theorem day_bounds (d : CivilDate) : 1 ≤ d.day ∧ d.day ≤ daysInMonth d.year d.month := by
  have h := daysBeforeMonth_monthOfOrdinal d.ordinal_bounds.1 d.ordinal_bounds.2
  unfold day month daysInMonth
  omega

/-- Year, month and day name the date they are read off. -/
theorem ofYmd_year_month_day (d : CivilDate) : ofYmd d.year d.month d.day = .ok d := by
  have h : Calendar.dayNumber d.year d.month d.day = d.dayNumber := by
    unfold Calendar.dayNumber day ordinal; omega
  simp [ofYmd, named, d.year_bounds, d.month_bounds, d.day_bounds, h, ofDayNumber?_dayNumber]

/-! ## Order -/

instance : LT CivilDate := ⟨fun a b => a.dayNumber < b.dayNumber⟩
instance : LE CivilDate := ⟨fun a b => a.dayNumber ≤ b.dayNumber⟩
instance (a b : CivilDate) : Decidable (a < b) := inferInstanceAs (Decidable (a.dayNumber < b.dayNumber))
instance (a b : CivilDate) : Decidable (a ≤ b) := inferInstanceAs (Decidable (a.dayNumber ≤ b.dayNumber))

protected def compare (a b : CivilDate) : Ordering := compareOfLessAndEq a.dayNumber b.dayNumber

end CivilDate

end CivilTime
