/-
  CivilTime.Zoned — dates and moments in a time zone.

  A zoned date is its local date, a zoned moment its reading in UTC. Beside it stands the state of
  the zone: which kind of zone it is and the offset found there. Equality and order of zoned
  values look at the date or the moment only.
-/

import CivilTime.Region.Resolve

namespace CivilTime

/-- A kind of zone and the offset it had. -/
inductive ZoneState where
  | utc
  | fixed (o : Offset)
  | system (o : Offset)
  | region (o : RegionOffset)
  | custom (o : Offset)
  deriving DecidableEq

def ZoneState.offset : ZoneState → Offset
  | utc => .zero
  | fixed o | system o | custom o => o
  | region o => o.offset

structure ZonedDate where
  date : CivilDate
  state : ZoneState
  deriving DecidableEq

structure ZonedDateTime where
  utc : CivilDateTime
  state : ZoneState
  deriving DecidableEq

namespace ZonedDateTime

/-- The reading of the moment in its zone, which may lie outside the calendar. -/
def localForm (x : ZonedDateTime) : Except Failure CivilDateTime := x.utc.toLocal x.state.offset

def date (x : ZonedDateTime) : Except Failure ZonedDate := do return ⟨(← x.localForm).date, x.state⟩

def time (x : ZonedDateTime) : Except Failure ClockTime := do return (← x.localForm).time

def withFixedOffset (x : ZonedDateTime) : ZonedDateTime := ⟨x.utc, .fixed x.state.offset⟩

/-! ## For transport -/

/-- A moment as plain numbers, beside the state of its zone. -/
structure Packed where
  seconds : Int
  nanosecond : Int
  state : ZoneState
  deriving DecidableEq

def pack (x : ZonedDateTime) : Packed := ⟨x.utc.timestamp, x.utc.time.nanosecond, x.state⟩

def Packed.unpack (p : Packed) : Except Failure ZonedDateTime := do
  return ⟨← CivilDateTime.ofTimestamp p.seconds p.nanosecond, p.state⟩

end ZonedDateTime

/-! ## Texts -/

def ZoneState.text : ZoneState → String
  | utc => "UTC"
  | fixed o | system o | custom o => o.text
  | region o => o.text

def ZoneState.mark : ZoneState → String
  | utc => "Z"
  | s => s.offset.text

def ZonedDate.text (d : ZonedDate) : String := d.date.text ++ d.state.text

def ZonedDate.quoted (d : ZonedDate) : String := s!"Date({d.date.text}{d.state.mark})"

def ZonedDateTime.text (x : ZonedDateTime) : Except Failure String := do
  return s!"{(← x.localForm).text} {x.state.text}"

def ZonedDateTime.quoted (x : ZonedDateTime) : Except Failure String := do
  return s!"DateTime({(← x.localForm).isoText}{x.state.mark})"

end CivilTime
