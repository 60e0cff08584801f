/-
  CivilTime.Calendar — the arithmetic of the proleptic Gregorian calendar, on whole numbers.

  Days are counted from day 1, the first of January of year 1, which was a Monday. Everything
  here is total on all integers; which numbers name a day that exists is decided in
  `CivilTime.CivilDate`. Divisions are by positive constants and round down.

  `yearOfDay_eq_iff`, `monthOfOrdinal_eq_iff`: the formulas that find a day's year and month find
  the one year and the one month that the day lies in.
-/

namespace CivilTime.Calendar

/-! ## Years -/

def IsLeap (y : Int) : Prop := y % 4 = 0 ∧ (y % 100 ≠ 0 ∨ y % 400 = 0)

instance (y : Int) : Decidable (IsLeap y) := inferInstanceAs (Decidable (_ ∧ _))

def yearLength (y : Int) : Int := if IsLeap y then 366 else 365

def daysBeforeYear (y : Int) : Int :=
  365 * (y - 1) + (y - 1) / 4 - (y - 1) / 100 + (y - 1) / 400

/-- The year of day `n`. Four hundred years have 146097 days, and a year estimated at that rate
is off by at most one. -/
def yearOfDay (n : Int) : Int :=
  let y := 400 * (n - 1) / 146097 + 1
  if n ≤ daysBeforeYear y then y - 1
  else if daysBeforeYear (y + 1) < n then y + 1
  else y

theorem daysBeforeYear_succ (y : Int) : daysBeforeYear (y + 1) = daysBeforeYear y + yearLength y := by
  unfold daysBeforeYear yearLength
  split <;> (unfold IsLeap at *; omega)

/-- A day lies after the days before its year. -/
theorem daysBeforeYear_yearOfDay_lt (n : Int) : daysBeforeYear (yearOfDay n) < n := by
  unfold yearOfDay
  dsimp only
  split
  · unfold daysBeforeYear at *; omega
  · split
    · assumption
    · omega

/-- A day lies before the year that follows its own. -/
theorem le_daysBeforeYear_yearOfDay_succ (n : Int) : n ≤ daysBeforeYear (yearOfDay n + 1) := by
  unfold yearOfDay
  dsimp only
  split
  · have : 400 * (n - 1) / 146097 + 1 - 1 + 1 = 400 * (n - 1) / 146097 + 1 := by omega
    rw [this]; assumption
  · split
    · unfold daysBeforeYear at *; omega
    · omega

theorem daysBeforeYear_mono {a b : Int} (h : a ≤ b) : daysBeforeYear a ≤ daysBeforeYear b := by
  unfold daysBeforeYear; omega

/-- A day's year is the one year that it lies in. -/
theorem yearOfDay_eq_iff {n y : Int} :
    yearOfDay n = y ↔ daysBeforeYear y < n ∧ n ≤ daysBeforeYear (y + 1) := by
  constructor
  · rintro rfl
    exact ⟨daysBeforeYear_yearOfDay_lt n, le_daysBeforeYear_yearOfDay_succ n⟩
  · rintro ⟨lo, hi⟩
    have lo' := daysBeforeYear_yearOfDay_lt n
    have hi' := le_daysBeforeYear_yearOfDay_succ n
    rcases Int.lt_trichotomy (yearOfDay n) y with h | h | h
    · have := daysBeforeYear_mono (a := yearOfDay n + 1) (b := y) h; omega
    · exact h
    · have := daysBeforeYear_mono (a := y + 1) (b := yearOfDay n) h; omega

/-! ## Months -/

/-- The days of year `y` before the first day of month `m`. The months lie on a line of slope 367/12,
as if February had thirty days; what February lacks is taken off from March on. -/
def daysBeforeMonth (y m : Int) : Int :=
  (367 * m - 362) / 12 - (if m ≤ 2 then 0 else if IsLeap y then 1 else 2)

def daysInMonth (y m : Int) : Int := daysBeforeMonth y (m + 1) - daysBeforeMonth y m

/-- The month of the `k`-th day of year `y`: the line of `daysBeforeMonth` read backwards. -/
def monthOfOrdinal (y k : Int) : Int :=
  let missing := if k ≤ daysBeforeMonth y 3 then 0 else if IsLeap y then 1 else 2
  (12 * (k - 1 + missing) + 373) / 367

theorem monthOfOrdinal_bounds {y k : Int} (lo : 1 ≤ k) (hi : k ≤ yearLength y) :
    1 ≤ monthOfOrdinal y k ∧ monthOfOrdinal y k ≤ 12 := by
  unfold monthOfOrdinal daysBeforeMonth yearLength at *
  by_cases leap : IsLeap y <;> simp only [leap, if_true, if_false] at * <;> split <;> omega

theorem daysBeforeMonth_monthOfOrdinal {y k : Int} (lo : 1 ≤ k) (hi : k ≤ yearLength y) :
    daysBeforeMonth y (monthOfOrdinal y k) < k ∧ k ≤ daysBeforeMonth y (monthOfOrdinal y k + 1) := by
  unfold monthOfOrdinal daysBeforeMonth yearLength at *
  by_cases leap : IsLeap y <;> simp only [leap, if_true, if_false] at * <;> split <;>
    (constructor <;> split <;> omega)

theorem daysBeforeMonth_mono {y a b : Int} (h : a ≤ b) : daysBeforeMonth y a ≤ daysBeforeMonth y b := by
  unfold daysBeforeMonth
  by_cases leap : IsLeap y <;> simp only [leap, if_true, if_false] <;> split <;> split <;> omega

theorem daysBeforeMonth_one (y : Int) : daysBeforeMonth y 1 = 0 := rfl

theorem daysBeforeMonth_thirteen (y : Int) : daysBeforeMonth y 13 = yearLength y := by
  unfold daysBeforeMonth yearLength
  by_cases leap : IsLeap y <;> simp [leap]

/-- The month of a day of the year is the one month that it lies in. -/
theorem monthOfOrdinal_eq_iff {y k m : Int} (lo : 1 ≤ k) (hi : k ≤ yearLength y) :
    monthOfOrdinal y k = m ↔ daysBeforeMonth y m < k ∧ k ≤ daysBeforeMonth y (m + 1) := by
  have h := daysBeforeMonth_monthOfOrdinal lo hi
  constructor
  · rintro rfl; exact h
  · rintro ⟨lo', hi'⟩
    rcases Int.lt_trichotomy (monthOfOrdinal y k) m with g | g | g
    · have := daysBeforeMonth_mono (y := y) (a := monthOfOrdinal y k + 1) (b := m) g; omega
    · exact g
    · have := daysBeforeMonth_mono (y := y) (a := m + 1) (b := monthOfOrdinal y k) g; omega

def dayNumber (y m d : Int) : Int := daysBeforeYear y + daysBeforeMonth y m + d

/-! ## Weeks -/

/-- The day of the week, from 1 for Monday to 7 for Sunday. -/
def weekday (n : Int) : Int := (n - 1) % 7 + 1

/-- The Monday of a year's first week, which is the week of the fourth of January. -/
def firstMonday (y : Int) : Int :=
  let d := daysBeforeYear y + 4
  d - (weekday d - 1)

def weeksInYear (y : Int) : Int := (firstMonday (y + 1) - firstMonday y) / 7

/-- A day's week belongs to the year of that week's Thursday, and is counted in it. -/
def isoWeek (n : Int) : Int × Int :=
  let thursday := n - weekday n + 4
  let y := yearOfDay thursday
  (y, (thursday - daysBeforeYear y - 1) / 7 + 1)

end CivilTime.Calendar
