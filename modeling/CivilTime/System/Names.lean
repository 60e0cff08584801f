/-
  CivilTime.System.Names — the names by which a text may call the system's zone: those that its clock
  has at the start of a year and half a year later.
-/

import CivilTime.Pattern.Directive
import CivilTime.System.Clock

namespace CivilTime.System

/-- The instant at which the names are first looked up: the start of 2026. The system takes the present
time, rounded down to a multiple of 31557600 seconds; that the present is in 2026 is assumed. -/
def yearStart : Int := 1767225600

/-- Half a year of 365 days and a quarter after that. -/
def midYear : Int := yearStart + 15778800

/-- A name in small letters, of which no more than nine characters count. -/
def shortName (name : String) : String := String.ofList (Text.lowerText (name.toList.take 9))

/-- Two names for UTC and the name at the start of the year, and if the clock is set differently half
a year later the name that it has then. -/
def zoneNames (r : ZoneRule) : Pattern.ZoneNames :=
  let atStart := shortName (nameAt r yearStart)
  let atMiddle := shortName (nameAt r midYear)
  ⟨["utc", "gmt", atStart] ++ if offsetAt r yearStart = offsetAt r midYear then [] else [atMiddle]⟩

end CivilTime.System
