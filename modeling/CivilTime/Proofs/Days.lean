/-
  CivilTime.Proofs.Days — the days of the calendar and the fields that name them.

  (1) There is a day for a year and a place in it (`Calendar.IsOrdinal`), and for a month and a day of it
  (`Calendar.IsDay`), if they keep to the lengths that everybody knows. A day of a month is a day of the
  year, too (`IsDay.isOrdinal`).

  (2) Names. Fields name the one date that has them, and nothing if no date has them (`CivilDate.Names`). So it is
  with the day of the year (`ofOrdinal_eq_ok_iff`) and with the day of a month (`ofYmd_eq_ok_iff`), and
  every day that there is has a name (`exists_ofOrdinal_iff`, `exists_ofYmd_iff`).

  (3) Order. Dates follow one another as lists of their fields do, the coarsest field first. No field is smaller on
  a later day, unless a coarser one is larger; so the fields are compared one by one (`compare_eq_cons`).

  Main statement: `yearDays_exactly`.
-/

import CivilTime.CivilDateTime

namespace CivilTime

/-! ## (1) Days of a year -/

namespace Calendar

def monthLength (y m : Int) : Int :=
  if m = 2 then (if IsLeap y then 29 else 28)
  else if m = 4 ∨ m = 6 ∨ m = 9 ∨ m = 11 then 30
  else 31

structure IsOrdinal (y k : Int) : Prop where
  year : 1 ≤ y ∧ y ≤ 9999
  ordinal : 1 ≤ k ∧ k ≤ if IsLeap y then 366 else 365

structure IsDay (y m d : Int) : Prop where
  year : 1 ≤ y ∧ y ≤ 9999
  month : 1 ≤ m ∧ m ≤ 12
  day : 1 ≤ d ∧ d ≤ monthLength y m

variable {y m d k : Int}

namespace IsOrdinal

variable (h : IsOrdinal y k)

include h

theorem le_yearLength : k ≤ yearLength y := h.ordinal.2

/-- The day lies in its year. -/
theorem yearOfDay_eq : yearOfDay (daysBeforeYear y + k) = y := by
  have lo := h.ordinal.1
  have hi := h.le_yearLength
  rw [yearOfDay_eq_iff, daysBeforeYear_succ]
  omega

theorem dayNumber_bounds : 1 ≤ daysBeforeYear y + k ∧ daysBeforeYear y + k ≤ 3652059 := by
  have lo := h.ordinal.1
  have hi := h.le_yearLength
  have first : daysBeforeYear 1 ≤ daysBeforeYear y := daysBeforeYear_mono h.year.1
  have last : daysBeforeYear (y + 1) ≤ daysBeforeYear 10000 := daysBeforeYear_mono (by have := h.year.2; omega)
  rw [daysBeforeYear_succ] at last
  rw [show daysBeforeYear 1 = 0 from rfl] at first
  rw [show daysBeforeYear 10000 = 3652059 from rfl] at last
  omega

end IsOrdinal

/-- Between the days before a month and those before the next there are as many as the month has. -/
theorem daysInMonth_eq_monthLength (h : 1 ≤ m ∧ m ≤ 12) : daysInMonth y m = monthLength y m := by
  obtain ⟨lo, hi⟩ := h
  have cases : m = 1 ∨ m = 2 ∨ (m = 4 ∨ m = 6 ∨ m = 9 ∨ m = 11) ∨ m = 3 ∨ m = 5 ∨ m = 7 ∨ m = 8 ∨ m = 10 ∨ m = 12 := by
    omega
  unfold daysInMonth daysBeforeMonth monthLength
  by_cases leap : IsLeap y
  · simp only [leap, if_true]
    rcases cases with rfl | rfl | (rfl | rfl | rfl | rfl) | rfl | rfl | rfl | rfl | rfl | rfl <;> decide
  · simp only [leap, if_false]
    rcases cases with rfl | rfl | (rfl | rfl | rfl | rfl) | rfl | rfl | rfl | rfl | rfl | rfl <;> decide

namespace IsDay

variable (h : IsDay y m d)

include h

theorem le_daysInMonth : d ≤ daysInMonth y m := by
  rw [daysInMonth_eq_monthLength h.month]
  exact h.day.2

/-- The day lies in its month. -/
theorem ordinal_bounds :
    daysBeforeMonth y m < daysBeforeMonth y m + d ∧ daysBeforeMonth y m + d ≤ daysBeforeMonth y (m + 1) := by
  have lo := h.day.1
  have hi := h.le_daysInMonth
  unfold daysInMonth at hi
  omega

/-- A day of a month is a day of the year. -/
theorem isOrdinal : IsOrdinal y (daysBeforeMonth y m + d) := by
  refine ⟨h.year, ?_⟩
  obtain ⟨lo, hi⟩ := h.ordinal_bounds
  have first : daysBeforeMonth y 1 ≤ daysBeforeMonth y m := daysBeforeMonth_mono h.month.1
  have last : daysBeforeMonth y (m + 1) ≤ daysBeforeMonth y 13 := daysBeforeMonth_mono (by have := h.month.2; omega)
  rw [daysBeforeMonth_one] at first
  rw [daysBeforeMonth_thirteen] at last
  unfold yearLength at last
  omega

theorem monthOfOrdinal_eq : monthOfOrdinal y (daysBeforeMonth y m + d) = m :=
  (monthOfOrdinal_eq_iff h.isOrdinal.ordinal.1 h.isOrdinal.le_yearLength).mpr h.ordinal_bounds

end IsDay

theorem dayNumber_eq (y m d : Int) : dayNumber y m d = daysBeforeYear y + (daysBeforeMonth y m + d) := by
  unfold dayNumber
  omega

end Calendar

open Calendar (IsDay IsOrdinal)

/-! ## (2) Names -/

namespace CivilDate

/-- What fields name: the one date that has them, or nothing if no date has them. -/
structure Names (named : Except Failure CivilDate) (Has : CivilDate → Prop) : Prop where
  ok_iff : ∀ x, named = .ok x ↔ Has x
  error_iff : named = .error .invalidDate ↔ ¬ ∃ x, Has x

/-- A name can only fail because there is no such date. -/
theorem names_of_ok_iff {valid : Prop} [Decidable valid] {n : Int} {Has : CivilDate → Prop}
    (h : ∀ x, named valid n = .ok x ↔ Has x) : Names (named valid n) Has := by
  refine ⟨h, ?_, ?_⟩
  · rintro refused ⟨x, hx⟩
    rw [(h x).mpr hx] at refused
    cases refused
  · intro none
    cases made : named valid n with
    | ok x => exact absurd ⟨x, (h x).mp made⟩ none
    | error f => rw [named_eq_error made]

variable {y m d k : Int} {x : CivilDate}

/-! ### The day of the year -/

theorem isOrdinal (x : CivilDate) : IsOrdinal x.year x.ordinal := ⟨x.year_bounds, x.ordinal_bounds⟩

/-- The fields of a day of the year are its own. -/
theorem year_ordinal_of_dayNumber (h : IsOrdinal y k) (number : x.dayNumber = Calendar.daysBeforeYear y + k) :
    x.year = y ∧ x.ordinal = k := by
  have year : x.year = y := by
    unfold CivilDate.year
    rw [number]
    exact h.yearOfDay_eq
  refine ⟨year, ?_⟩
  unfold CivilDate.ordinal
  rw [number, year]
  omega

theorem ofOrdinal_eq_ok_iff : ofOrdinal y k = .ok x ↔ x.year = y ∧ x.ordinal = k := by
  constructor
  · intro h
    obtain ⟨⟨year, ordinal⟩, number⟩ := named_eq_ok_iff.mp h
    exact year_ordinal_of_dayNumber ⟨year, ordinal⟩ number
  · rintro ⟨rfl, rfl⟩
    exact x.ofOrdinal_ordinal

theorem exists_ofOrdinal_iff : (∃ x, ofOrdinal y k = .ok x) ↔ IsOrdinal y k := by
  constructor
  · rintro ⟨x, h⟩
    obtain ⟨rfl, rfl⟩ := ofOrdinal_eq_ok_iff.mp h
    exact x.isOrdinal
  · intro h
    have bounds := h.dayNumber_bounds
    exact ⟨⟨_, bounds.1, bounds.2⟩, named_eq_ok_iff.mpr ⟨⟨h.year, h.ordinal⟩, rfl⟩⟩

/-- The year 1900 was a common year. -/
example : ofOrdinal 1900 366 = .error .invalidDate := rfl

/-! ### The day of a month -/

theorem isDay (x : CivilDate) : IsDay x.year x.month x.day where
  year := x.year_bounds
  month := x.month_bounds
  day := by
    rw [← Calendar.daysInMonth_eq_monthLength x.month_bounds]
    exact x.day_bounds

/-- Year, month and day name the one date that has them. -/
theorem ofYmd_eq_ok_iff : ofYmd y m d = .ok x ↔ x.year = y ∧ x.month = m ∧ x.day = d := by
  constructor
  · intro h
    obtain ⟨⟨year, month, day⟩, number⟩ := named_eq_ok_iff.mp h
    rw [Calendar.daysInMonth_eq_monthLength month] at day
    have isDay : IsDay y m d := ⟨year, month, day⟩
    rw [Calendar.dayNumber_eq] at number
    obtain ⟨year, ordinal⟩ := year_ordinal_of_dayNumber isDay.isOrdinal number
    have month : x.month = m := by
      unfold CivilDate.month
      rw [year, ordinal]
      exact isDay.monthOfOrdinal_eq
    refine ⟨year, month, ?_⟩
    unfold CivilDate.day
    rw [year, month, ordinal]
    omega
  · rintro ⟨rfl, rfl, rfl⟩
    exact x.ofYmd_year_month_day

theorem exists_ofYmd_iff : (∃ x, ofYmd y m d = .ok x) ↔ IsDay y m d := by
  constructor
  · rintro ⟨x, h⟩
    obtain ⟨rfl, rfl, rfl⟩ := ofYmd_eq_ok_iff.mp h
    exact x.isDay
  · intro h
    have bounds := h.isOrdinal.dayNumber_bounds
    rw [← Calendar.dayNumber_eq] at bounds
    exact ⟨⟨_, bounds.1, bounds.2⟩, named_eq_ok_iff.mpr ⟨⟨h.year, h.month, h.day.1, h.le_daysInMonth⟩, rfl⟩⟩

end CivilDate

/-! ## (3) Order -/

/-- Two numbers compare like two lists whose first places follow them, if they compare like the rest of the lists
wherever the first places are the same. -/
theorem compare_eq_cons {a b p q : Int} {ps qs : List Int} (up : a ≤ b → p ≤ q) (down : b ≤ a → q ≤ p)
    (rest : p = q → compare a b = compare ps qs) : compare a b = compare (p :: ps) (q :: qs) := by
  rw [List.compare_cons_cons]
  rcases Int.lt_trichotomy p q with less | equal | more
  · have before : a < b := Int.not_le.mp fun h => absurd (down h) (Int.not_le.mpr less)
    rw [Int.compare_eq_lt.mpr before, Int.compare_eq_lt.mpr less]
    rfl
  · rw [rest equal, Int.compare_eq_eq.mpr equal]
    rfl
  · have after : b < a := Int.not_le.mp fun h => absurd (up h) (Int.not_le.mpr more)
    rw [Int.compare_eq_gt.mpr after, Int.compare_eq_gt.mpr more]
    rfl

/-- Numbers compare alike that are less and more alike. -/
theorem compare_eq_of_lt_iff {a b p q : Int} (less : a < b ↔ p < q) (more : b < a ↔ q < p) :
    compare a b = compare p q := by
  rcases Int.lt_trichotomy a b with lt | rfl | gt
  · rw [Int.compare_eq_lt.mpr lt, Int.compare_eq_lt.mpr (less.mp lt)]
  · rw [Int.compare_eq_eq.mpr rfl, Int.compare_eq_eq.mpr (by omega)]
  · rw [Int.compare_eq_gt.mpr gt, Int.compare_eq_gt.mpr (more.mp gt)]

/-- Numbers that are equally far apart compare alike. -/
theorem compare_eq_of_sub_eq {a b p q : Int} (same : b - a = q - p) : compare a b = compare p q := by
  apply compare_eq_of_lt_iff <;> omega

theorem compare_eq_singleton {a b p q : Int} (same : b - a = q - p) : compare a b = compare [p] [q] := by
  rw [List.compare_cons_cons, compare_eq_of_sub_eq same]
  exact Ordering.then_eq.symm

namespace Calendar

theorem yearOfDay_mono {a b : Int} (h : a ≤ b) : yearOfDay a ≤ yearOfDay b := by
  have lo := daysBeforeYear_yearOfDay_lt a
  have hi := le_daysBeforeYear_yearOfDay_succ b
  rcases Int.lt_or_le (yearOfDay b) (yearOfDay a) with less | le
  · have := daysBeforeYear_mono (a := yearOfDay b + 1) (b := yearOfDay a) less
    omega
  · exact le

theorem monthOfOrdinal_mono {y a b : Int} (lo : 1 ≤ a) (h : a ≤ b) (hi : b ≤ yearLength y) :
    monthOfOrdinal y a ≤ monthOfOrdinal y b := by
  have after := (daysBeforeMonth_monthOfOrdinal lo (Int.le_trans h hi)).1
  have before := (daysBeforeMonth_monthOfOrdinal (Int.le_trans lo h) hi).2
  rcases Int.lt_or_le (monthOfOrdinal y b) (monthOfOrdinal y a) with less | le
  · have := daysBeforeMonth_mono (y := y) (a := monthOfOrdinal y b + 1) (b := monthOfOrdinal y a) less
    omega
  · exact le

end Calendar

namespace CivilDate

theorem compare_def (a b : CivilDate) : a.compare b = compare a.dayNumber b.dayNumber := rfl

theorem compare_eq_year_ordinal (a b : CivilDate) :
    a.compare b = compare [a.year, a.ordinal] [b.year, b.ordinal] := by
  rw [compare_def]
  refine compare_eq_cons Calendar.yearOfDay_mono Calendar.yearOfDay_mono fun sameYear => ?_
  refine compare_eq_singleton ?_
  change a.year = b.year at sameYear
  unfold ordinal
  rw [sameYear]
  omega

theorem compare_eq_year_month_day (a b : CivilDate) :
    a.compare b = compare [a.year, a.month, a.day] [b.year, b.month, b.day] := by
  rw [compare_def]
  refine compare_eq_cons Calendar.yearOfDay_mono Calendar.yearOfDay_mono fun sameYear => ?_
  change a.year = b.year at sameYear
  have ordinals : b.dayNumber - a.dayNumber = b.ordinal - a.ordinal := by
    unfold ordinal
    rw [sameYear]
    omega
  have boundsA := a.ordinal_bounds
  have boundsB := b.ordinal_bounds
  rw [← sameYear] at boundsB
  -- in one year months and days are read off the day of the year
  refine compare_eq_cons (fun le => ?_) (fun le => ?_) fun sameMonth => compare_eq_singleton ?_
  · unfold month
    rw [← sameYear]
    exact Calendar.monthOfOrdinal_mono boundsA.1 (by omega) boundsB.2
  · unfold month
    rw [← sameYear]
    exact Calendar.monthOfOrdinal_mono boundsB.1 (by omega) boundsA.2
  · unfold day
    rw [← sameYear, ← sameMonth]
    omega

end CivilDate

/-! ## The days of a year -/

/-- The second at which a day begins. -/
theorem CivilDateTime.timestamp_startOf (d : CivilDate) : (startOf d).timestamp = (d.dayNumber - epochDay) * 86400 :=
  Int.add_zero _

open CivilDateTime (startOf)
open CivilDate (ofOrdinal ofYmd Names)

/-- A year with a day of it, and a year with a month and a day of that, name the same days, each the one that has
these fields, and in the same order. From one day of a year to the next it is a day by the count of seconds, too. -/
theorem yearDays_exactly :
    (∀ y k : Int, Names (ofOrdinal y k) (fun x => x.year = y ∧ x.ordinal = k) ∧
      ((∃ x, ofOrdinal y k = .ok x) ↔ IsOrdinal y k)) ∧
    (∀ y m d : Int, Names (ofYmd y m d) (fun x => x.year = y ∧ x.month = m ∧ x.day = d) ∧
      ((∃ x, ofYmd y m d = .ok x) ↔ IsDay y m d)) ∧
    (∀ x : CivilDate, ofOrdinal x.year x.ordinal = .ok x ∧ ofYmd x.year x.month x.day = .ok x) ∧
    (∀ a b : CivilDate, a.compare b = compare [a.year, a.ordinal] [b.year, b.ordinal] ∧
      a.compare b = compare [a.year, a.month, a.day] [b.year, b.month, b.day]) ∧
    ∀ (y k : Int) (a b : CivilDate), ofOrdinal y k = .ok a → ofOrdinal y (k + 1) = .ok b →
      (startOf b).timestamp = (startOf a).timestamp + 86400 := by
  refine ⟨fun y k => ⟨?_, ?_⟩, fun y m d => ⟨?_, ?_⟩, fun x => ⟨?_, ?_⟩, fun a b => ⟨?_, ?_⟩, ?_⟩
  · exact CivilDate.names_of_ok_iff fun x => CivilDate.ofOrdinal_eq_ok_iff
  · exact CivilDate.exists_ofOrdinal_iff
  · exact CivilDate.names_of_ok_iff fun x => CivilDate.ofYmd_eq_ok_iff
  · exact CivilDate.exists_ofYmd_iff
  · exact x.ofOrdinal_ordinal
  · exact x.ofYmd_year_month_day
  · exact CivilDate.compare_eq_year_ordinal a b
  · exact CivilDate.compare_eq_year_month_day a b
  · intro y k a b today tomorrow
    obtain ⟨-, numberA⟩ := CivilDate.named_eq_ok_iff.mp today
    obtain ⟨-, numberB⟩ := CivilDate.named_eq_ok_iff.mp tomorrow
    rw [CivilDateTime.timestamp_startOf, CivilDateTime.timestamp_startOf, numberA, numberB]
    omega

end CivilTime
