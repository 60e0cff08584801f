/-
  CivilTime.Fault — all that can go wrong when an operation is carried out, by cause.
-/

import CivilTime.Offset
import CivilTime.Pattern.Fault
import CivilTime.Region.Key
import CivilTime.Text.Written

namespace CivilTime

inductive Fault where
  /-- A date, a time or a moment does not exist. -/
  | failure (f : Failure)
  /-- One value was asked of two; their texts are shown. -/
  | ambiguousLocal (earlier later : String)
  /-- A parsed offset, in microseconds, is not made of whole seconds. -/
  | fractionalOffset (micros : Int)
  /-- A parsed offset is not the one that the zone has then. -/
  | offsetMismatch (parsed actual : Offset) (zone : String)
  | offsetOutOfBounds (seconds : Int)
  /-- A region's records hold an offset of a day or more. -/
  | offsetTooLarge
  | pattern (p : PatternFault)
  | key (k : KeyFault)
  | field (f : FieldFault)
  /-- A date and time that already has a zone stands where one without is needed. -/
  | alreadyZoned
  /-- The sum or difference of two kinds of value that have none. -/
  | noArithmetic (sign : Char) (left right : String)
  /-- Two kinds of value that have no order. -/
  | noOrder (left right : String)
  /-- A plain date beside a plain date and time. -/
  | noDateOrder
  /-- A list cannot be looked up in a set. -/
  | notHashable
  /-- A kind of value where a text is read, or its format, as the first argument or the second. -/
  | notText (place : Nat) (kind : String)
  /-- A kind of value without this operation. -/
  | lacking (kind operation : String)
  /-- A name that no kind of failure has. -/
  | noSuchName (name : String)
  /-- Failures arise; they are not made. -/
  | notConstructible
  /-- There is no such operation for these values. -/
  | unsupported
  deriving DecidableEq, Repr

def Fault.message : Fault → String
  | failure f => f.message
  | ambiguousLocal earlier later => s!"Ambiguous local time, ranging from {earlier} to {later}"
  | fractionalOffset micros => s!"Parsed offset {spanText micros} has a fraction of a second"
  | offsetMismatch parsed actual zone =>
    s!"Parsed offset {parsed.text} doesn't match offset {actual.text} of {zone}"
  | offsetOutOfBounds seconds => s!"Offset out of bounds: {seconds} seconds"
  | offsetTooLarge => PatternFault.offsetTooLarge.message
  | pattern p => p.message
  | key k => k.message
  | field f => f.message
  | alreadyZoned => "Can only create NaiveDateTime from a naive datetime, got datetime with " ++
      "tzinfo=datetime.timezone.utc"
  | noArithmetic sign left right => s!"unsupported operand type(s) for {sign}: '{left}' and '{right}'"
  | noOrder left right => s!"'<' not supported between instances of '{left}' and '{right}'"
  | noDateOrder => "can't compare datetime.datetime to datetime.date"
  | notHashable => "unhashable type: 'list'"
  | notText place kind => s!"strptime() argument {place} must be str, not {kind}"
  | lacking kind operation => s!"'{kind}' object has no attribute '{operation}'"
  | noSuchName name => Text.quoted name
  | notConstructible => "DateTimeError cannot be instantiated directly"
  | unsupported => ""

end CivilTime
