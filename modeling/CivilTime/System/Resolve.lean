/-
  CivilTime.System.Resolve — the offsets that the system's zone has at a moment of UTC and at a
  clock reading. A reading is taken to UTC twice, as one shown for the first and for the second
  time. The first must be shown as the reading again; if the second is another moment, the reading
  is ambiguous.
-/

import CivilTime.Resolution
import CivilTime.System.Clock
import CivilTime.Traced

namespace CivilTime.System

/-- A value that is missing because a step left the calendar. -/
def orInvalid {α : Type} : Option α → Except Failure α
  | some a => .ok a
  | none => .error .invalidDateTime

def offsetOfUtc (r : ZoneRule) (x : CivilDateTime) : Traced Offset := .of (orInvalid (offset? r x.timestamp))

def candidates (r : ZoneRule) (x : CivilDateTime) : Traced (Resolution Offset) := do
  let w := x.timestamp
  let early ← .of (orInvalid (utcOf r .first w))
  let earlyOffset ← .of (orInvalid (offset? r early))
  if early + earlyOffset.seconds ≠ w then
    .note (.irregular x .skipped none)
    .fail .invalidDateTime
  else
    let late ← .of (orInvalid (utcOf r .second w))
    let lateOffset ← .of (orInvalid (offset? r late))
    if early = late then return .single earlyOffset
    else
      .note (.irregular x .ambiguous none)
      return .ambiguous earlyOffset lateOffset

end CivilTime.System
