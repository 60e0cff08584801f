/-
  CivilTime.Program.Operation — the operations of a program, by name. A `Maker` makes a value out of
  arguments alone; an `Action` is carried out on a value that is already there. What an action
  means depends on the value, and a value may have none of that name.
-/

import CivilTime.Value

namespace CivilTime

inductive Maker where
  | setSystemZone
  | weekday
  | utc
  | system
  | region
  | regionOffset
  | east
  | west
  | eastOrNone
  | westOrNone
  | date
  | dateOfOrdinal
  | dateOfWeek
  | dateOfPlain
  | time
  | timeOfHms
  | timeOfHmsMilli
  | timeOfHmsMicro
  | timeOfHmsNano
  | dateTime
  | dateTimeOfTimestamp
  | dateTimeOfPlain
  | single
  | ambiguous
  | failureKind
  | failure
  | utcNow
  | utcToday
  | systemNow
  | systemToday
  | customZone
  | distinct
  | sorted
  /-- An action that takes failures, where there is no value to carry it out on. -/
  | misplaced
  /-- A name that nothing is made by. -/
  | unknown
  deriving DecidableEq, Repr

inductive Action where
  -- of any value
  | text
  | quoted
  | compare
  | sameHash
  | isOf (k : Value.Kind)
  | copy
  | transport
  -- of dates and times
  | year
  | month
  | day
  | ordinal
  | weekday
  | isoWeek
  | toPlainDate
  | andTime
  | andHms
  | andHmsMilli
  | andHmsMicro
  | andHmsNano
  | hour
  | minute
  | second
  | nanosecond
  | isLeapSecond
  | toPlainTime
  | timestamp
  | timestampMillis
  | timestampNanos
  | date
  | time
  | isoText
  | toPlainDateTime
  | add
  | subtract
  -- of zones
  | ymd
  | ordinalDate
  | weekDate
  | momentOfText
  | dateOfLocal
  | momentOfLocal
  | dateOfUtc
  | momentOfUtc
  | resolveDate
  | resolve
  | offsetOfLocalDate
  | offsetOfLocal
  | offsetOfUtcDate
  | offsetOfUtc
  | ofOffset
  | fix
  | onlyOffsetOfUtcDate
  | onlyOffsetOfUtc
  | onlyDateOfUtc
  | onlyMomentOfUtc
  | localMinusUtc
  | utcMinusLocal
  | key
  | abbreviation
  -- of zoned values
  | localForm
  | utcForm
  | offset
  | timezone
  | inZone
  | withFixedOffset
  -- of resolutions
  | singleOrNone
  | earliest
  | latest
  | unwrap
  | value
  | min
  | max
  /-- Another action, carried out on each value of a resolution. -/
  | onEach (a : Action)
  -- of failures
  | kind
  | name
  /-- A maker that takes failures, where there is a value already. -/
  | misplaced
  /-- A name that no value knows. -/
  | unknown
  deriving DecidableEq, Repr

def Maker.TakesFailures : Maker → Bool
  | distinct | single | ambiguous | misplaced => true
  | _ => false

namespace Action

def IsGeneral : Action → Bool
  | text | quoted | compare | sameHash | isOf _ | copy | transport => true
  | _ => false

def SuitsFailure (a : Action) : Bool := a.IsGeneral || a == kind

def TakesFailures : Action → Bool
  | compare | sameHash | misplaced => true
  | _ => false

/-- The name of an action that adds a time of day, for a value that has no such action. -/
def timeActionName : Action → String
  | andTime => "and_time"
  | andHms => "and_hms"
  | andHmsMilli => "and_hms_milli"
  | andHmsMicro => "and_hms_micro"
  | _ => "and_hms_nano"

def timeArity? : Action → Option Nat
  | andTime => some 1
  | andHms => some 3
  | andHmsMilli | andHmsMicro | andHmsNano => some 4
  | _ => none

/-- How an action on a zone looks for the offset of its argument. -/
def resolver? : Action → Option Resolver
  | dateOfLocal | resolveDate | offsetOfLocalDate => some .localDate
  | momentOfLocal | resolve | offsetOfLocal => some .localDateTime
  | dateOfUtc | offsetOfUtcDate => some .utcDate
  | momentOfUtc | offsetOfUtc => some .utcDateTime
  | _ => none

end Action

end CivilTime
