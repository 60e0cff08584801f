/-
  CivilTime.Program.Unfit — adding a time of day to whatever has a date in it, and what becomes of
  arguments of a kind that an operation is not made for.

  No kind is asked for beforehand: an operation goes on with what it is handed until something is
  missing, and a zone or a value that does not look at its argument takes any. So the fault tells
  what was missed first, and it can come after notes or behind another fault.
-/

import CivilTime.Program.Making
import CivilTime.Value.Text

namespace CivilTime.Action

/-! ## Times of day -/

/-- The time of day that an action's arguments name, if they are of the right kinds. -/
def timeOf? (a : Action) (args : List Value) : Option (Except Failure ClockTime) :=
  match a, args with
  | andTime, [.clockTime t] => some (.ok t)
  | a, args =>
    match a, numbers? args with
    | andHms, some [h, m, s] => some (ClockTime.ofHms h m s)
    | andHmsMilli, some [h, m, s, x] => some (ClockTime.ofHmsMilli h m s x)
    | andHmsMicro, some [h, m, s, x] => some (ClockTime.ofHmsMicro h m s x)
    | andHmsNano, some [h, m, s, x] => some (ClockTime.ofHmsNano h m s x)
    | _, _ => none

/-- A date in a zone with something that is no time of day. The system's zone and a region take the
time apart first; the others look for an offset first, and then count its seconds. An offset has
seconds, too, so with one for a time the day is found before the rest of the second is missed. -/
def addUnfitTime (w : World) (d : ZonedDate) (v : Value) : Traced Value := do
  let counted (o : Offset) : Traced Value :=
    match v with
    | .zone (.fixed p) =>
      match CivilDate.ofDayNumber? (d.date.dayNumber + (p.seconds - o.seconds) / 86400) with
      | some _ => .fault (.lacking v.kindName "_nanos")
      | none => .fail .invalidDateTime
    | v => .fault (.lacking v.kindName "_secs")
  match ← Zone.ofState w d.state with
  | .system | .region _ => .fault (.lacking v.kindName "py_time")
  | .custom =>
    let shown ← .of v.shown
    counted (← Zone.askUnfit w .localDateTime s!"{d.date.text} {shown}").offset
  | .utc => counted .zero
  | .fixed o => counted o

def withTime (w : World) (a : Action) (args : List Value) : Value → Traced Value
  | .date d =>
    match a.timeOf? args with
    | some t => return .dateTime ⟨d, ← .of t⟩
    | none => .fault .unsupported
  | .zonedDate d =>
    match a.timeOf? args, a, args with
    | some t, _, _ => return .moment (← d.atTime w (← .of t))
    | none, andTime, [v] => addUnfitTime w d v
    | _, _, _ => .fault .unsupported
  | .single v => return .single (← withTime w a args v)
  | .ambiguous _ _ => .fail .ambiguousDate
  | v => .fault (.lacking v.kindName a.timeActionName)

def addTime (w : World) (a : Action) (args : List Value) (v : Value) : Traced Value :=
  if a.timeArity? = some args.length then withTime w a args v else .fault .unsupported

/-! ## Dates and readings -/

/-- The state in which a zone is found by looking for the offset of something that is no date or no
reading. The system's zone and a region ask a date for its midnight and a reading for its fields. -/
def stateOfUnfit (w : World) (z : Zone) (r : Resolver) (v : Value) : Traced ZoneState := do
  match z with
  | .utc => return .utc
  | .fixed o => return .fixed o
  | .custom => Zone.askUnfit w r (← .of v.shown)
  | .system | .region _ =>
    let reading ←
      match r with
      | .localDate | .utcDate => withTime w andHms [.int 0, .int 0, .int 0] v
      | .localDateTime | .utcDateTime => pure v
    .fault (.lacking reading.kindName "py_datetime")

def onUnfit (w : World) (z : Zone) (r : Resolver) (a : Action) (v : Value) : Traced Value := do
  let s ← stateOfUnfit w z r v
  match a with
  | offsetOfLocalDate | offsetOfLocal | offsetOfUtcDate | offsetOfUtc => return .ofState s
  | momentOfLocal | resolve => .fault (.noArithmetic '-' v.kindName (Value.zone (.fixed s.offset)).kindName)
  | _ => .fault .unsupported

end CivilTime.Action
