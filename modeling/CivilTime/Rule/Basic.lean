/-
  CivilTime.Rule.Basic — a yearly rule: one standard offset, and perhaps daylight saving time that
  starts and stops on given days of every year.

  A rule is a description only. It is put to use in two ways, by the system clock
  (`CivilTime.System.Clock`) and by what holds in a region after its last recorded change
  (`CivilTime.Region.Lookup`). The two count days of the year a little differently (`DayCount`).
-/

import CivilTime.CivilDateTime

namespace CivilTime

open Calendar

inductive RuleDay where
  /-- The `week`-th such weekday (0 for Sunday) of a month, or the last one if there are only four. -/
  | weekdayOfMonth (month week weekday : Int)
  /-- A day of the year that never counts the leap day. -/
  | withoutLeapDay (n : Int)
  /-- A day of the year that counts the leap day. -/
  | withLeapDay (n : Int)
  deriving DecidableEq, Repr

/-- A day of the year, and the seconds from its start to the change. -/
structure RuleDate where
  day : RuleDay
  time : Int
  deriving DecidableEq, Repr

/-- Daylight saving time. It starts on the standard clock and stops on its own clock. -/
structure Daylight where
  name : String
  offset : Int
  start : RuleDate
  stop : RuleDate
  deriving DecidableEq, Repr

structure ZoneRule where
  name : String
  offset : Int
  daylight : Option Daylight
  deriving DecidableEq, Repr

/-! ## The days of a rule -/

/-- How the two plain counts of days are taken: from which day on the count without leap days
stands one day later in a leap year, and which day of the year the other count calls 0. -/
structure DayCount where
  laterFrom : Int
  zeroth : Int

/-- The day of the year, from 1, on which a change falls. -/
def RuleDay.ordinal (c : DayCount) (y : Int) : RuleDay → Int
  | weekdayOfMonth m week weekday =>
    let first := Calendar.dayNumber y m 1
    let day := 1 + (weekday - Calendar.weekday first) % 7 + 7 * (week - 1)
    daysBeforeMonth y m + if daysInMonth y m < day then day - 7 else day
  | withoutLeapDay n => if IsLeap y ∧ c.laterFrom ≤ n then n + 1 else n
  | withLeapDay n => n + c.zeroth

/-- The clock reading of a change in a year, as seconds from the epoch. -/
def RuleDate.reading (c : DayCount) (y : Int) (r : RuleDate) : Int :=
  (daysBeforeYear y + r.day.ordinal c y - CivilDateTime.epochDay) * 86400 + r.time

def yearOfSecond (s : Int) : Int := yearOfDay (s / 86400 + CivilDateTime.epochDay)

def ZoneRule.fixed (name : String) (offset : Int) : ZoneRule := ⟨name, offset, none⟩

end CivilTime
