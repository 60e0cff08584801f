/-
  CivilTime.Value — the values that operations take and give, as one type.

  Beside dates, times, zones and what is made of them there are the plain things around them:
  numbers, texts, lists, and dates and times on the grid of microseconds. A failure is a value too.
-/

import CivilTime.Resolution
import CivilTime.Zone

namespace CivilTime

inductive Value where
  | null
  | flag (b : Bool)
  | int (i : Int)
  | text (s : String)
  /-- A year and a week of it. -/
  | pair (a b : Int)
  | list (vs : List Value)
  | date (d : CivilDate)
  | clockTime (t : ClockTime)
  | dateTime (x : CivilDateTime)
  | plainDate (d : CivilDate)
  | plainTime (t : MicroTime)
  | plainDateTime (x : MicroDateTime)
  /-- A time zone; a plain offset is the zone that always has it. -/
  | zone (z : Zone)
  | regionOffset (o : RegionOffset)
  | zonedDate (d : ZonedDate)
  | moment (x : ZonedDateTime)
  | single (v : Value)
  | ambiguous (earlier later : Value)
  | failureKind (f : Failure)
  | failure (f : Failure)

namespace Value

def ofOption {α : Type} (f : α → Value) : Option α → Value
  | some a => f a
  | none => null

def ofResolution {α : Type} (f : α → Value) : Resolution α → Value
  | .single a => single (f a)
  | .ambiguous a b => ambiguous (f a) (f b)

def ofState : ZoneState → Value
  | .utc => zone .utc
  | .fixed o | .system o | .custom o => zone (.fixed o)
  | .region o => regionOffset o

def number? : Value → Option Int
  | int i => some i
  | flag b => some (if b then 1 else 0)
  | _ => none

/-! ## Kinds -/

/-- The kinds that a value can be asked about. `fault` is the kind of what is never a value. -/
inductive Kind where
  | date
  | clockTime
  | dateTime
  | offset
  | zone
  | fixedZone
  | fixedOffset
  | utc
  | system
  | region
  | custom
  | regionOffset
  | zonedDate
  | moment
  | resolution
  | single
  | ambiguous
  | failureKind
  | failure
  | fault
  deriving DecidableEq, Repr

/-- The kinds of a zone. UTC and a fixed offset are offsets, too. -/
def zoneKinds : Zone → List Kind
  | .utc => [.utc, .fixedZone, .zone, .offset]
  | .fixed _ => [.fixedOffset, .fixedZone, .zone, .offset]
  | .system => [.system, .zone]
  | .region _ => [.region, .zone]
  | .custom => [.custom, .zone]

def kinds : Value → List Kind
  | null | flag _ | int _ | text _ | pair _ _ | list _ => []
  | plainDate _ | plainTime _ | plainDateTime _ => []
  | date _ => [.date]
  | clockTime _ => [.clockTime]
  | dateTime _ => [.dateTime]
  | zone z => zoneKinds z
  | regionOffset _ => [.regionOffset, .offset]
  | zonedDate _ => [.zonedDate]
  | moment _ => [.moment]
  | single _ => [.single, .resolution]
  | ambiguous _ _ => [.ambiguous, .resolution]
  | failureKind _ => [.failureKind]
  | failure _ => [.failure]

def zoneKindName : Zone → String
  | .utc => "Utc"
  | .fixed _ => "FixedOffset"
  | .system => "Local"
  | .region _ => "Tz"
  | .custom => "Probe"

def kindName : Value → String
  | null => "NoneType"
  | flag _ => "bool"
  | int _ => "int"
  | text _ => "str"
  | pair _ _ => "tuple"
  | list _ => "list"
  | date _ => "NaiveDate"
  | clockTime _ => "NaiveTime"
  | dateTime _ => "NaiveDateTime"
  | plainDate _ => "datetime.date"
  | plainTime _ => "datetime.time"
  | plainDateTime _ => "datetime.datetime"
  | zone z => zoneKindName z
  | regionOffset _ => "TzOffset"
  | zonedDate _ => "Date"
  | moment _ => "DateTime"
  | single _ => "Single"
  | ambiguous _ _ => "Ambiguous"
  | failureKind _ => "ErrorKind"
  | failure _ => "DateTimeError"

/-- What a value's kind is called where a text was expected. -/
def shortKindName : Value → String
  | null => "None"
  | v => v.kindName

/-! ## Transport -/

mutual

/-- A value as it arrives after being sent away as plain data. Moments are sent as numbers. -/
def transported : Value → Except Failure Value
  | moment x => return moment (← x.pack.unpack)
  | single v => return single (← v.transported)
  | ambiguous a b => return ambiguous (← a.transported) (← b.transported)
  | list vs => return list (← transportedAll vs)
  | v => return v

def transportedAll : List Value → Except Failure (List Value)
  | [] => return []
  | v :: vs => return (← v.transported) :: (← transportedAll vs)

end

end Value

end CivilTime
