/-
  CivilTime.System.Clock — the clock of the system, which follows one rule, and the search for the
  instant at which it shows a given reading.

  The clock's reckoning begins with 1970: the changes of an earlier year are laid into 1970, as far
  from New Year as they stand in their own year.

  The clock is only ever asked what it shows at an instant. A reading that is shown twice is
  resolved by looking a day to either side; a reading that is skipped answers one of the two
  instants next to the gap, and comes back different when it is shown again.
-/

import CivilTime.Offset
import CivilTime.Region.Lookup

namespace CivilTime.System

open Calendar
open CivilDateTime (InCalendar)

/-- The days of the system's rule, in which no count can name a leap day by mistake: from day 60 on
the count without leap days stands a day later in a leap year, and the other count starts from 0. -/
def dayCount : DayCount := ⟨60, 1⟩

/-- The instant of a change of the year `y`, where the clock has been `o` ahead of UTC. The day is
found in the year itself and then counted from the start of 1970, if the year is an earlier one. -/
def change (date : RuleDate) (o y : Int) : Int :=
  (daysBeforeYear (max 1970 y) + date.day.ordinal dayCount y - CivilDateTime.epochDay) * 86400 + date.time - o

def daylightAt? (r : ZoneRule) (u : Int) : Option Daylight :=
  r.daylight.filter fun d =>
    let y := yearOfSecond u
    let start := change d.start r.offset y
    let stop := change d.stop d.offset y
    if stop < start then u < stop ∨ start ≤ u else start ≤ u ∧ u < stop

def offsetAt (r : ZoneRule) (u : Int) : Int :=
  match daylightAt? r u with
  | none => r.offset
  | some d => d.offset

def nameAt (r : ZoneRule) (u : Int) : String :=
  match daylightAt? r u with
  | none => r.name
  | some d => d.name

def shownAt (r : ZoneRule) (u : Int) : Option Int :=
  let w := u + offsetAt r u
  if InCalendar w then some w else none

/-- The instant at which the clock shows `t`, for the first or the second time; next to a gap, the
instant that `t` would be on one of the two offsets there. Nothing if a look leaves the calendar. -/
def instantOf (r : ZoneRule) (f : Fold) (t : Int) : Option Int := do
  let a := (← shownAt r t) - t
  let u1 := t - a
  let t1 ← shownAt r u1
  if t1 = t then
    -- if this is not the showing that is meant, the other offset is in force a day aside
    let aside := match f with
      | .first => u1 - 86400
      | .second => u1 + 86400
    let b := (← shownAt r aside) - aside
    if a = b then return u1
    else
      let u2 := t - b
      let t2 ← shownAt r u2
      return if t2 = t then u2 else u1
  else
    -- the offset at `u1` is another one; if `t` is not shown by that either, it is skipped
    let u2 := t - (t1 - u1)
    let t2 ← shownAt r u2
    return if t2 = t then u2
      else match f with
        | .first => max u1 u2
        | .second => min u1 u2

def offset? (r : ZoneRule) (u : Int) : Option Offset := do
  let o ← Offset.ofSeconds? (offsetAt r u)
  if InCalendar (u + o.seconds) then some o else none

/-- The instant that a clock reading is taken for: the reading less the offset at the instant found
for it. -/
def utcOf (r : ZoneRule) (f : Fold) (w : Int) : Option Int := do
  let o ← Offset.ofSeconds? (offsetAt r (← instantOf r f w))
  let u := w - o.seconds
  if InCalendar u then some u else none

end CivilTime.System
