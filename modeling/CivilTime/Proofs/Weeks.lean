/-
  CivilTime.Proofs.Weeks — the weeks of a year and the days in them.

  (1) Weeks begin on a Monday and belong to the year of their Thursday (`Calendar.thursday`). The years tile the weeks:
  the weeks of a year end where those of the next begin (`firstMonday_succ`), and there are fifty-two of them, or
  fifty-three in a long year (`weeksInYear_eq`). So the two formulas, one that counts from a year's first Monday and
  one that looks for the year of a day, undo each other on all integers (`isoWeek_eq_iff`).

  (2) A year, a week and a day of the week name the one date that has them (`ofWeek_eq_ok_iff`). The calendar begins on
  a Monday, but it ends on a Friday, so that two days of the last week are missing (`exists_ofWeek_iff`).

  (3) Dates follow one another as year, week and day of the week do (`compare_eq_week`).

  Main statement: `weekDates_exactly`.
-/

import CivilTime.Proofs.Days

namespace CivilTime

/-! ## (1) Weeks -/

namespace Calendar

def thursday (n : Int) : Int := n - weekday n + 4

/-- The years with fifty-three weeks begin on a Thursday, or on a Wednesday if they are leap years. -/
def IsLong (y : Int) : Prop :=
  weekday (daysBeforeYear y + 1) = 4 ∨ (IsLeap y ∧ weekday (daysBeforeYear y + 1) = 3)

instance (y : Int) : Decidable (IsLong y) := inferInstanceAs (Decidable (_ ∨ _))

def weekDayNumber (y w d : Int) : Int := firstMonday y + 7 * (w - 1) + (d - 1)

/-- There is such a day of a week in the years from 1 to 9999, the last of which is cut off on a Friday. -/
structure IsWeekDay (y w d : Int) : Prop where
  year : 1 ≤ y ∧ y ≤ 9999
  week : 1 ≤ w ∧ w ≤ if IsLong y then 53 else 52
  day : 1 ≤ d ∧ d ≤ 7
  last : y = 9999 → w = 52 → d ≤ 5

variable {n y w d : Int}

theorem weekday_bounds (n : Int) : 1 ≤ weekday n ∧ weekday n ≤ 7 := by
  unfold weekday
  omega

theorem firstMonday_eq (y : Int) : firstMonday y = daysBeforeYear y + 4 - (daysBeforeYear y + 3) % 7 := by
  unfold firstMonday weekday
  dsimp only
  omega

/-- The first Thursday is one of the first seven days. -/
theorem firstMonday_bounds (y : Int) :
    daysBeforeYear y < firstMonday y + 3 ∧ firstMonday y + 3 ≤ daysBeforeYear y + 7 := by
  rw [firstMonday_eq]
  omega

theorem weekday_firstMonday (y : Int) : (firstMonday y - 1) % 7 = 0 := by
  rw [firstMonday_eq]
  omega

theorem firstMonday_mono {a b : Int} (h : a ≤ b) : firstMonday a ≤ firstMonday b := by
  have := daysBeforeYear_mono h
  rw [firstMonday_eq, firstMonday_eq]
  omega

/-- The weeks of a year end where those of the next begin. -/
theorem firstMonday_succ (y : Int) : firstMonday (y + 1) = firstMonday y + 7 * weeksInYear y := by
  have := weekday_firstMonday y
  have := weekday_firstMonday (y + 1)
  unfold weeksInYear
  omega

theorem weeksInYear_eq (y : Int) : weeksInYear y = if IsLong y then 53 else 52 := by
  have next := firstMonday_succ y
  rw [firstMonday_eq, firstMonday_eq, daysBeforeYear_succ] at next
  unfold IsLong weekday
  unfold yearLength at next
  by_cases leap : IsLeap y
  · simp only [leap, if_true, true_and] at next ⊢
    split <;> omega
  · simp only [leap, if_false, false_and, or_false] at next ⊢
    split <;> omega

theorem weekday_weekDayNumber (day : 1 ≤ d ∧ d ≤ 7) : weekday (weekDayNumber y w d) = d := by
  have monday := weekday_firstMonday y
  unfold weekDayNumber weekday
  omega

/-- The Thursdays of a year follow its first at distances of seven days. -/
theorem thursday_weekDayNumber (day : 1 ≤ d ∧ d ≤ 7) :
    thursday (weekDayNumber y w d) = firstMonday y + 3 + 7 * (w - 1) := by
  unfold thursday
  rw [weekday_weekDayNumber day]
  unfold weekDayNumber
  omega

theorem yearOfDay_thursday (week : 1 ≤ w ∧ w ≤ weeksInYear y) (day : 1 ≤ d ∧ d ≤ 7) :
    yearOfDay (thursday (weekDayNumber y w d)) = y := by
  have next := firstMonday_succ y
  have first := firstMonday_bounds y
  have firstNext := firstMonday_bounds (y + 1)
  rw [thursday_weekDayNumber day, yearOfDay_eq_iff]
  omega

theorem isoWeek_def (n : Int) : isoWeek n =
    (yearOfDay (thursday n), (thursday n - daysBeforeYear (yearOfDay (thursday n)) - 1) / 7 + 1) := rfl

/-- A day has a week and a day of the week just if they lead to the day from the first Monday of their year. -/
theorem isoWeek_eq_iff : isoWeek n = (y, w) ∧ weekday n = d ↔
    ((1 ≤ w ∧ w ≤ weeksInYear y) ∧ 1 ≤ d ∧ d ≤ 7) ∧ n = weekDayNumber y w d := by
  have first := firstMonday_bounds y
  rw [isoWeek_def, Prod.mk.injEq]
  constructor
  · rintro ⟨⟨year, rfl⟩, rfl⟩
    have monday := weekday_firstMonday y
    have next := firstMonday_succ y
    have firstNext := firstMonday_bounds (y + 1)
    have bounds := weekday_bounds n
    -- the Thursday is of the year, so it lies in the weeks between two first Mondays
    have inYear := yearOfDay_eq_iff.mp year
    rw [year]
    unfold weekDayNumber thursday weekday at *
    omega
  · rintro ⟨⟨week, day⟩, rfl⟩
    rw [yearOfDay_thursday week day, thursday_weekDayNumber day]
    refine ⟨⟨rfl, ?_⟩, weekday_weekDayNumber day⟩
    omega

theorem thursday_mono {a b : Int} (h : a ≤ b) : thursday a ≤ thursday b := by
  unfold thursday weekday
  omega

end Calendar

open Calendar (IsWeekDay thursday)

/-! ## (2) Names -/

namespace CivilDate

variable {y w d : Int} {x : CivilDate}

/-- The weeks of the calendar belong to its years. -/
theorem isoYear_bounds (x : CivilDate) : 1 ≤ x.isoWeek.1 ∧ x.isoWeek.1 ≤ 9999 := by
  have lo := Calendar.yearOfDay_mono (Calendar.thursday_mono x.one_le)
  have hi := Calendar.yearOfDay_mono (Calendar.thursday_mono x.le_last)
  have first : Calendar.yearOfDay (thursday 1) = 1 := rfl
  have last : Calendar.yearOfDay (thursday 3652059) = 9999 := rfl
  rw [first] at lo
  rw [last] at hi
  exact ⟨lo, hi⟩

theorem isoWeek_weekday_iff : x.isoWeek = (y, w) ∧ x.weekday = d ↔
    ((1 ≤ w ∧ w ≤ Calendar.weeksInYear y) ∧ 1 ≤ d ∧ d ≤ 7) ∧ x.dayNumber = Calendar.weekDayNumber y w d :=
  Calendar.isoWeek_eq_iff

/-- A date is the day that its own week and day of the week name. -/
theorem weekDayNumber_own (x : CivilDate) :
    (1 ≤ x.weekday ∧ x.weekday ≤ 7) ∧ x.dayNumber = Calendar.weekDayNumber x.isoWeek.1 x.isoWeek.2 x.weekday := by
  have own : x.isoWeek = (x.isoWeek.1, x.isoWeek.2) ∧ x.weekday = x.weekday := ⟨rfl, rfl⟩
  obtain ⟨⟨-, day⟩, number⟩ := isoWeek_weekday_iff.mp own
  exact ⟨day, number⟩

/-- Year, week and day of the week name the one date that has them. -/
theorem ofWeek_eq_ok_iff : ofWeek y w d = .ok x ↔ x.isoWeek = (y, w) ∧ x.weekday = d := by
  refine named_eq_ok_iff.trans ⟨?_, ?_⟩
  · rintro ⟨⟨-, fields⟩, number⟩
    exact isoWeek_weekday_iff.mpr ⟨fields, number⟩
  · intro h
    obtain ⟨fields, number⟩ := isoWeek_weekday_iff.mp h
    have year := x.isoYear_bounds
    rw [h.1] at year
    exact ⟨⟨year, fields⟩, number⟩

/-- The days of the weeks of a year, as far as the calendar goes. -/
theorem weekDayNumber_bounds (year : 1 ≤ y ∧ y ≤ 9999) (week : 1 ≤ w ∧ w ≤ Calendar.weeksInYear y)
    (day : 1 ≤ d ∧ d ≤ 7) :
    1 ≤ Calendar.weekDayNumber y w d ∧
      (Calendar.weekDayNumber y w d ≤ 3652059 ↔ (y = 9999 → w = 52 → d ≤ 5)) := by
  have first : Calendar.firstMonday 1 ≤ Calendar.firstMonday y := Calendar.firstMonday_mono year.1
  have next := Calendar.firstMonday_succ y
  rw [show Calendar.firstMonday 1 = 1 from rfl] at first
  have last : Calendar.firstMonday 9999 = 3651698 := rfl
  unfold Calendar.weekDayNumber
  -- only the last week of the last year reaches past the calendar
  by_cases lastYear : y = 9999
  · subst lastYear
    rw [show Calendar.weeksInYear 9999 = 52 from rfl] at week
    omega
  · have before : Calendar.firstMonday (y + 1) ≤ Calendar.firstMonday 9999 := Calendar.firstMonday_mono (by omega)
    omega

theorem exists_ofWeek_iff : (∃ x, ofWeek y w d = .ok x) ↔ IsWeekDay y w d := by
  constructor
  · rintro ⟨x, h⟩
    obtain ⟨⟨year, week, day⟩, number⟩ := named_eq_ok_iff.mp h
    have bounds := weekDayNumber_bounds year week day
    have last := bounds.2.mp (le_of_eq_of_le number.symm x.le_last)
    rw [Calendar.weeksInYear_eq] at week
    exact ⟨year, week, day, last⟩
  · rintro ⟨year, week, day, last⟩
    rw [← Calendar.weeksInYear_eq] at week
    have bounds := weekDayNumber_bounds year week day
    exact ⟨⟨_, bounds.1, bounds.2.mpr last⟩, named_eq_ok_iff.mpr ⟨⟨year, week, day⟩, rfl⟩⟩

/-- The Saturday of the last week lies in the year 10000. -/
example : ofWeek 9999 52 6 = .error .invalidDate := rfl

/-! ## (3) Order -/

/-- Dates follow one another by the years that their weeks belong to, then by week and day of the week. -/
theorem compare_eq_week (a b : CivilDate) : a.compare b =
    compare [a.isoWeek.1, a.isoWeek.2, a.weekday] [b.isoWeek.1, b.isoWeek.2, b.weekday] := by
  obtain ⟨dayA, numberA⟩ := a.weekDayNumber_own
  obtain ⟨dayB, numberB⟩ := b.weekDayNumber_own
  unfold Calendar.weekDayNumber at numberA numberB
  rw [compare_def]
  refine compare_eq_cons ?_ ?_ fun sameYear => ?_
  · intro le
    exact Calendar.yearOfDay_mono (Calendar.thursday_mono le)
  · intro le
    exact Calendar.yearOfDay_mono (Calendar.thursday_mono le)
  · rw [← sameYear] at numberB
    refine compare_eq_cons (fun le => ?_) (fun le => ?_) fun sameWeek => compare_eq_singleton ?_
    all_goals omega

theorem weekday_eq_timestamp (x : CivilDate) :
    x.weekday = 1 + ((CivilDateTime.startOf x).timestamp / 86400 + 3) % 7 := by
  rw [CivilDateTime.timestamp_startOf]
  unfold weekday Calendar.weekday CivilDateTime.epochDay
  omega

end CivilDate

open CivilDateTime (startOf)
open CivilDate (ofWeek Names)

/-- A year, a week of it and a day of that week name the date that has them, and dates follow one another as they
do. The day of the week is that of the days since the epoch, which was a Thursday. -/
theorem weekDates_exactly :
    (∀ y w d : Int, Names (ofWeek y w d) (fun x => x.isoWeek = (y, w) ∧ x.weekday = d) ∧
      ((∃ x, ofWeek y w d = .ok x) ↔ IsWeekDay y w d)) ∧
    (∀ a b : CivilDate, a.compare b =
      compare [a.isoWeek.1, a.isoWeek.2, a.weekday] [b.isoWeek.1, b.isoWeek.2, b.weekday]) ∧
    ∀ x : CivilDate, x.weekday = 1 + ((startOf x).timestamp / 86400 + 3) % 7 := by
  refine ⟨fun y w d => ⟨?_, ?_⟩, ?_, ?_⟩
  · exact CivilDate.names_of_ok_iff fun x => CivilDate.ofWeek_eq_ok_iff
  · exact CivilDate.exists_ofWeek_iff
  · exact CivilDate.compare_eq_week
  · exact CivilDate.weekday_eq_timestamp

end CivilTime
