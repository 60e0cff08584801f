/-
  CivilTime.Zone — time zones, and how dates and moments are made in them.

  A zone answers two questions: which offset it has at a date or moment of UTC, and which offsets
  a local date or reading may have (`candidates`). Everything else is derived from the answers. A
  local date stands for its midnight. Where there are two candidates, an operation that wants one
  value takes the earlier.
-/

import CivilTime.Pattern
import CivilTime.System.Names
import CivilTime.World
import CivilTime.Zoned

namespace CivilTime

inductive Zone where
  | utc
  | fixed (o : Offset)
  | system
  | region (r : Region)
  | custom

namespace Zone

def quoted : Zone → String
  | utc => "Z"
  | fixed o => s!"FixedOffset({o.text})"
  | system => "Local()"
  | region r => s!"Tz({Text.quoted r.key})"
  | custom => "Probe()"

/-! ## Offsets -/

def ask (q : Question) (answer : Except Fault Offset) : Traced ZoneState := do
  .note (.asked q)
  return .custom (← .lift id answer)

def askUnfit (w : World) (r : Resolver) (text : String) : Traced ZoneState :=
  ask (.unfit r text) (w.custom.unfit r)

def candidates (w : World) (x : CivilDateTime) : Zone → Traced (Resolution ZoneState)
  | utc => return .single .utc
  | fixed o => return .single (.fixed o)
  | system => return (← System.candidates w.system x).map .system
  | region r => return (← r.candidates x).map .region
  | custom => return .single (← ask (.localDateTime x) (w.custom.localDateTime x))

def dateCandidates (w : World) (d : CivilDate) : Zone → Traced (Resolution ZoneState)
  | custom => return .single (← ask (.localDate d) (w.custom.localDate d))
  | z => z.candidates w (.startOf d)

def stateOfLocal (w : World) (x : CivilDateTime) (z : Zone) : Traced ZoneState :=
  return (← z.candidates w x).earliest

def stateOfLocalDate (w : World) (d : CivilDate) (z : Zone) : Traced ZoneState :=
  return (← z.dateCandidates w d).earliest

def stateOfUtc (w : World) (x : CivilDateTime) : Zone → Traced ZoneState
  | utc => return .utc
  | fixed o => return .fixed o
  | system => return .system (← System.offsetOfUtc w.system x)
  | region r => return .region (← r.offsetOfUtc x)
  | custom => ask (.utcDateTime x) (w.custom.utcDateTime x)

def stateOfUtcDate (w : World) (d : CivilDate) : Zone → Traced ZoneState
  | custom => ask (.utcDate d) (w.custom.utcDate d)
  | z => z.stateOfUtc w (.startOf d)

def onlyState? : Zone → Option ZoneState
  | utc => some .utc
  | fixed o => some (.fixed o)
  | _ => none

section OnlyState

variable {z : Zone} {s : ZoneState} (only : z.onlyState? = some s)

include only

/-- A zone that has only one state may show every reading in it. -/
theorem candidates_of_onlyState (w : World) (x : CivilDateTime) : z.candidates w x = pure (.single s) := by
  cases z <;> cases only <;> rfl

/-- A zone that has only one state is always in it. -/
theorem stateOfUtc_of_onlyState (w : World) (x : CivilDateTime) : z.stateOfUtc w x = pure s := by
  cases z <;> cases only <;> rfl

end OnlyState

/-- The zone that has a state. A region is looked up again by its key. -/
def ofState (w : World) : ZoneState → Traced Zone
  | .utc => return utc
  | .fixed o => return fixed o
  | .system _ => return system
  | .region o => return region (← .lift .key (w.region o.key))
  | .custom o => do
    .note (.asked (.ofOffset o.text))
    return custom

/-! ## Dates -/

def dateOfLocal (w : World) (z : Zone) (d : CivilDate) : Traced ZonedDate :=
  return ⟨d, ← z.stateOfLocalDate w d⟩

def dateOfUtc (w : World) (z : Zone) (d : CivilDate) : Traced ZonedDate :=
  return ⟨d, ← z.stateOfUtcDate w d⟩

def resolveDate (w : World) (z : Zone) (d : CivilDate) : Traced (Resolution ZonedDate) :=
  return (← z.dateCandidates w d).map (⟨d, ·⟩)

def dateOfYmd (w : World) (z : Zone) (y m d : Int) : Traced ZonedDate := do
  z.dateOfLocal w (← .of (CivilDate.ofYmd y m d))

def dateOfOrdinal (w : World) (z : Zone) (y k : Int) : Traced ZonedDate := do
  z.dateOfLocal w (← .of (CivilDate.ofOrdinal y k))

def dateOfWeek (w : World) (z : Zone) (y week d : Int) : Traced ZonedDate := do
  z.dateOfLocal w (← .of (CivilDate.ofWeek y week d))

/-! ## Moments -/

def momentIn (x : CivilDateTime) (s : ZoneState) : Traced ZonedDateTime :=
  return ⟨← .of (x.toUtc s.offset), s⟩

def momentOfLocal (w : World) (z : Zone) (x : CivilDateTime) : Traced ZonedDateTime := do
  momentIn x (← z.stateOfLocal w x)

def momentOfUtc (w : World) (z : Zone) (x : CivilDateTime) : Traced ZonedDateTime :=
  return ⟨x, ← z.stateOfUtc w x⟩

def resolve (w : World) (z : Zone) (x : CivilDateTime) : Traced (Resolution ZonedDateTime) := do
  (← z.candidates w x).mapM (momentIn x)

def momentOfTimestamp (w : World) (z : Zone) (secs nanos : Int) : Traced ZonedDateTime := do
  z.momentOfUtc w (← .of (CivilDateTime.ofTimestamp secs nanos))

def momentOfMillis (w : World) (z : Zone) (millis : Int) : Traced ZonedDateTime :=
  z.momentOfTimestamp w (millis / 1000) (millis % 1000 * 1000000)

def momentOfNanos (w : World) (z : Zone) (nanos : Int) : Traced ZonedDateTime :=
  z.momentOfTimestamp w (nanos / 1000000000) (nanos % 1000000000)

/-- The moment that a text names in a format. An offset in the text fixes the moment, and has to be
the zone's own then; without one the text is a clock reading. -/
def momentOfText (w : World) (z : Zone) (text format : String) : Traced ZonedDateTime := do
  let parsed ← .lift .pattern (Pattern.read (System.zoneNames w.system) text format)
  let x := parsed.reading.toCivil
  match parsed.offsetMicros with
  | none => z.momentOfLocal w x
  | some micros =>
    if micros % 1000000 ≠ 0 then .fault (.fractionalOffset micros)
    else match Offset.ofSeconds? (micros / 1000000) with
      | none => .fault (.offsetOutOfBounds (micros / 1000000))
      | some o =>
        let moment ← z.momentOfUtc w (← .of (x.toUtc o))
        if moment.state.offset ≠ o then .fault (.offsetMismatch o moment.state.offset z.quoted)
        else return moment

/-! ## The present -/

/-- The present moment in UTC, by a system clock that reads `nanos` since the epoch. -/
def now (w : World) (nanos : Int) : Traced ZonedDateTime := do
  .note (.clockRead nanos)
  if nanos < 0 then .fail .clockBeforeEpoch
  else utc.momentOfNanos w nanos

end Zone

/-! ## From one zone to another -/

def ZonedDate.inZone (w : World) (d : ZonedDate) (z : Zone) : Traced ZonedDate := z.dateOfUtc w d.date

def ZonedDateTime.inZone (w : World) (x : ZonedDateTime) (z : Zone) : Traced ZonedDateTime :=
  z.momentOfUtc w x.utc

def ZonedDate.atTime (w : World) (d : ZonedDate) (t : ClockTime) : Traced ZonedDateTime := do
  (← Zone.ofState w d.state).momentOfLocal w ⟨d.date, t⟩

end CivilTime
