/-
  CivilTime.Program.Acting — what each action does with a value of each kind.
-/

import CivilTime.Program.Unfit

namespace CivilTime

namespace Action

/-! ## Any value -/

def onAny (v : Value) (args : List Value) : Action → Traced Value
  | text => do
    if args.isEmpty then return .text (← .of v.shown) else .fault .unsupported
  | quoted => do
    if args.isEmpty then return .text (← .of v.quoted) else .fault .unsupported
  | compare =>
    match args with
    | [other] => return .list (v.comparisons other)
    | _ => .fault .unsupported
  | sameHash =>
    match args with
    | [other] =>
      if v.isHashable && other.isHashable then return .flag (v.same other) else .fault .notHashable
    | _ => .fault .unsupported
  | isOf k => return .flag (v.kinds.contains k)
  | copy => return v
  | transport => do return ← .of v.transported
  | _ => .fault .unsupported

/-! ## Dates and times without a zone -/

def onDate (w : World) (d : CivilDate) (a : Action) (args : List Value) : Traced Value :=
  match a, args with
  | year, [] => return .int d.year
  | month, [] => return .int d.month
  | day, [] => return .int d.day
  | ordinal, [] => return .int d.ordinal
  | weekday, [] => return .int d.weekday
  | isoWeek, [] => return .pair d.isoWeek.1 d.isoWeek.2
  | toPlainDate, [] => return .plainDate d
  | a, args => a.addTime w args (.date d)

def onTime (t : ClockTime) (a : Action) (args : List Value) : Traced Value :=
  match a, args with
  | hour, [] => return .int t.hour
  | minute, [] => return .int t.minute
  | second, [] => return .int t.second
  | nanosecond, [] => return .int t.nanosecond
  | isLeapSecond, [] => return .flag (decide t.IsLeapSecond)
  | toPlainTime, [] => return .plainTime t.toMicro
  | _, _ => .fault .unsupported

def onDateTime (x : CivilDateTime) (a : Action) (args : List Value) : Traced Value :=
  match a, args with
  | timestamp, [] => return .int x.timestamp
  | timestampMillis, [] => return .int x.timestampMillis
  | timestampNanos, [] => return .int x.timestampNanos
  | date, [] => return .date x.date
  | time, [] => return .clockTime x.time
  | isoText, [] => return .text x.isoText
  | toPlainDateTime, [] => return .plainDateTime x.toMicro
  | add, [.zone (.fixed o)] => return .dateTime (← .of (x.toLocal o))
  | subtract, [.zone (.fixed o)] => return .dateTime (← .of (x.toUtc o))
  | add, [v] => .fault (.noArithmetic '+' (Value.dateTime x).kindName v.kindName)
  | subtract, [v] => .fault (.noArithmetic '-' (Value.dateTime x).kindName v.kindName)
  | _, _ => .fault .unsupported

/-! ## Zones -/

/-- The zone that has an offset, asked of a zone of the same kind. -/
def zoneOfOffset (w : World) (v : Value) : Zone → Traced Value
  | .utc => return .zone .utc
  | .fixed _ => return v
  | .system => return .zone .system
  | .region _ =>
    match v with
    | .regionOffset o => return .zone (.region (← .lift .key (w.region o.key)))
    | .zone (.region r) => return .zone (.region (← .lift .key (w.region r.key)))
    | v => .fault (.lacking v.kindName "key")
  | .custom => do
    .note (.asked (.ofOffset (← .of v.shown)))
    return .zone .custom

def onZoneNumbers (w : World) (z : Zone) (a : Action) (args : List Int) : Traced Value :=
  match a, args with
  | ymd, [y, m, d] => return .zonedDate (← z.dateOfYmd w y m d)
  | ordinalDate, [y, k] => return .zonedDate (← z.dateOfOrdinal w y k)
  | weekDate, [y, week, d] => return .zonedDate (← z.dateOfWeek w y week d)
  | timestamp, [s] => return .moment (← z.momentOfTimestamp w s 0)
  | timestamp, [s, n] => return .moment (← z.momentOfTimestamp w s n)
  | timestampMillis, [n] => return .moment (← z.momentOfMillis w n)
  | timestampNanos, [n] => return .moment (← z.momentOfNanos w n)
  | _, _ => .fault .unsupported

/-- Actions of a zone that has only one state. -/
def onOnlyState (z : Zone) (s : ZoneState) (a : Action) (args : List Value) : Traced Value :=
  match a, z, args with
  | fix, _, [] => return .zone (.fixed s.offset)
  | onlyOffsetOfUtcDate, _, [_] | onlyOffsetOfUtc, _, [_] => return .ofState s
  | onlyDateOfUtc, _, [.date d] => return .zonedDate ⟨d, s⟩
  | onlyMomentOfUtc, _, [.dateTime x] => return .moment ⟨x, s⟩
  | localMinusUtc, .fixed o, [] => return .int o.seconds
  | utcMinusLocal, .fixed o, [] => return .int (-o.seconds)
  | _, _, _ => .fault .unsupported

def onZone (w : World) (z : Zone) (a : Action) (args : List Value) : Traced Value :=
  match a, args with
  | momentOfText, [.text s, .text format] => return .moment (← z.momentOfText w s format)
  | momentOfText, [.text _, v] => .fault (.notText 2 v.shortKindName)
  | momentOfText, [v, _] => .fault (.notText 1 v.shortKindName)
  | dateOfLocal, [.date d] => return .zonedDate (← z.dateOfLocal w d)
  | momentOfLocal, [.dateTime x] => return .moment (← z.momentOfLocal w x)
  | dateOfUtc, [.date d] => return .zonedDate (← z.dateOfUtc w d)
  | momentOfUtc, [.dateTime x] => return .moment (← z.momentOfUtc w x)
  | resolveDate, [.date d] => return .ofResolution .zonedDate (← z.resolveDate w d)
  | resolve, [.dateTime x] => return .ofResolution .moment (← z.resolve w x)
  | offsetOfLocalDate, [.date d] => return .ofState (← z.stateOfLocalDate w d)
  | offsetOfLocal, [.dateTime x] => return .ofState (← z.stateOfLocal w x)
  | offsetOfUtcDate, [.date d] => return .ofState (← z.stateOfUtcDate w d)
  | offsetOfUtc, [.dateTime x] => return .ofState (← z.stateOfUtc w x)
  | ofOffset, [v] => zoneOfOffset w v z
  | key, [] =>
    match z with
    | .region r => return .text r.key
    | _ => .fault .unsupported
  | ymd, args | ordinalDate, args | weekDate, args | timestamp, args | timestampMillis, args
  | timestampNanos, args =>
    match numbers? args with
    | some ns => onZoneNumbers w z a ns
    | none => .fault .unsupported
  | a, args =>
    match a.resolver?, args with
    | some r, [v] => onUnfit w z r a v
    | _, _ =>
      match z.onlyState? with
      | some s => onOnlyState z s a args
      | none => .fault .unsupported

def onRegionOffset (o : RegionOffset) (a : Action) (args : List Value) : Traced Value :=
  match a, args with
  | key, [] => return .text o.key
  | abbreviation, [] => return .ofOption .text o.abbreviation
  | fix, [] => return .zone (.fixed o.offset)
  | _, _ => .fault .unsupported

/-! ## Zoned values -/

def onZonedDate (w : World) (d : ZonedDate) (a : Action) (args : List Value) : Traced Value :=
  match a, args with
  | year, [] => return .int d.date.year
  | month, [] => return .int d.date.month
  | day, [] => return .int d.date.day
  | localForm, [] | utcForm, [] => return .date d.date
  | offset, [] => return .ofState d.state
  | timezone, [] => return .zone (← Zone.ofState w d.state)
  | inZone, [.zone z] => return .zonedDate (← d.inZone w z)
  | inZone, [v] => .fault (.lacking v.kindName "from_utc_date")
  | a, args => a.addTime w args (.zonedDate d)

def onMoment (w : World) (x : ZonedDateTime) (a : Action) (args : List Value) : Traced Value :=
  match a, args with
  | year, [] => return .int (← .of x.localForm).date.year
  | month, [] => return .int (← .of x.localForm).date.month
  | day, [] => return .int (← .of x.localForm).date.day
  | hour, [] => return .int (← .of x.localForm).time.hour
  | minute, [] => return .int (← .of x.localForm).time.minute
  | second, [] => return .int (← .of x.localForm).time.second
  | nanosecond, [] => return .int x.utc.time.nanosecond
  | localForm, [] => return .dateTime (← .of x.localForm)
  | utcForm, [] => return .dateTime x.utc
  | offset, [] => return .ofState x.state
  | timezone, [] => return .zone (← Zone.ofState w x.state)
  | date, [] => return .zonedDate (← .of x.date)
  | time, [] => return .clockTime (← .of x.time)
  | timestamp, [] => return .int x.utc.timestamp
  | timestampMillis, [] => return .int x.utc.timestampMillis
  | timestampNanos, [] => return .int x.utc.timestampNanos
  | inZone, [.zone z] => return .moment (← x.inZone w z)
  | inZone, [v] => .fault (.lacking v.kindName "from_utc_datetime")
  | withFixedOffset, [] => return .moment x.withFixedOffset
  | _, _ => .fault .unsupported

/-! ## Resolutions -/

def onSingle (w : World) (v : Value) (a : Action) (args : List Value) : Traced Value :=
  match a, args with
  | singleOrNone, [] | earliest, [] | latest, [] | unwrap, [] | value, [] => return v
  | a, args => a.addTime w args (.single v)

def onAmbiguous (w : World) (v u : Value) (a : Action) (args : List Value) : Traced Value :=
  match a, args with
  | singleOrNone, [] => return .null
  | earliest, [] | min, [] => return v
  | latest, [] | max, [] => return u
  | unwrap, [] => do .fault (.ambiguousLocal (← .of v.quoted) (← .of u.quoted))
  | a, args => a.addTime w args (.ambiguous v u)

/-! ## All values -/

/-- Carries out an action, other than one on each value of a resolution. -/
def once (w : World) (a : Action) (v : Value) (args : List Value) : Traced Value :=
  if a.IsGeneral then a.onAny v args
  else match v with
    | .date d => onDate w d a args
    | .clockTime t => onTime t a args
    | .dateTime x => onDateTime x a args
    | .zone z => onZone w z a args
    | .regionOffset o => onRegionOffset o a args
    | .zonedDate d => onZonedDate w d a args
    | .moment x => onMoment w x a args
    | .single v => onSingle w v a args
    | .ambiguous v u => onAmbiguous w v u a args
    | .failure f =>
      match a, args with
      | kind, [] => return .failureKind f
      | _, _ => .fault .unsupported
    | .failureKind f =>
      match a, args with
      | name, [] => return .text f.name
      | value, [] => return .text f.message
      | _, _ => .fault .unsupported
    | _ => .fault .unsupported

def perform (w : World) (v : Value) (args : List Value) : Action → Traced Value
  | onEach a =>
    match v with
    | .single v => return .single (← a.perform w v args)
    | .ambiguous v u => return .ambiguous (← a.perform w v args) (← a.perform w u args)
    | _ => .fault .unsupported
  | a => a.once w v args

end Action

end CivilTime
