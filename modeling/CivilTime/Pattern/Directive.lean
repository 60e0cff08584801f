/-
  CivilTime.Pattern.Directive — the fields that a format can ask for, and the texts each accepts.

  The texts of a field are given as a list of shapes: a shape says of each character in turn what it
  may be, so it has a fixed length, and an earlier shape is preferred to a later one. Where a
  shape wants just any digit, digits of all scripts will do.
-/

import CivilTime.Text.Digit
import CivilTime.Text.LetterCase

namespace CivilTime.Pattern

inductive Directive where
  | year
  | shortYear
  | weekYear
  | month
  | monthName
  | monthAbbreviation
  | dayOfMonth
  | dayOfYear
  | isoWeek
  | weekFromSunday
  | weekFromMonday
  | isoWeekday
  | weekdayFromSunday
  | weekdayName
  | weekdayAbbreviation
  | hour24
  | hour12
  | halfDay
  | minute
  | second
  | fraction
  | offset
  | zoneName
  deriving DecidableEq, Repr

/-! ## Names -/

def monthNames : List String :=
  ["january", "february", "march", "april", "may", "june", "july", "august", "september", "october",
    "november", "december"]

def weekdayNames : List String :=
  ["monday", "tuesday", "wednesday", "thursday", "friday", "saturday", "sunday"]

def abbreviation (name : String) : String := String.ofList (name.toList.take 3)

/-- The names by which a text may call a zone, in small letters. -/
structure ZoneNames where
  known : List String

/-! ## Shapes -/

/-- What each character of a text may be. -/
abbrev Shape := List (Char → Bool)

def Shape.split? : Shape → List Char → Option (List Char × List Char)
  | [], cs => some ([], cs)
  | _ :: _, [] => none
  | p :: ps, c :: cs => if p c then (Shape.split? ps cs).map fun r => (c :: r.1, r.2) else none

/-- The characters from one ASCII digit to another. -/
def among (lo hi : Char) (c : Char) : Bool := lo.toNat ≤ c.toNat && c.toNat ≤ hi.toNat

def exactly (a c : Char) : Bool := a == c

def Shape.ofName (name : String) : Shape := name.toList.map Text.sameLetter

/-- Names in the order in which they are tried: a longer one first. -/
def Shape.ofNames (names : List String) : List Shape :=
  (names.mergeSort fun a b => b.length ≤ a.length).map Shape.ofName

/-- A fraction of up to six digits, as many as there are. -/
def Shape.digits (p : Char → Bool) : List Shape := [6, 5, 4, 3, 2, 1].map fun n => List.replicate n p

/-- An offset: sign, hours and minutes; perhaps seconds; after these perhaps a fraction; or else the
capital letter Z. A colon before minutes or seconds may be there or not. -/
def Shape.offsets : List Shape :=
  let sign : Shape := [fun c => c == '+' || c == '-', Text.isDigit, Text.isDigit]
  let sixty : Shape := [among '0' '5', Text.isDigit]
  let colon : List Shape := [[exactly ':'], []]
  let fraction : List Shape := (Shape.digits Text.isDigit).map (exactly '.' :: ·) ++ [[]]
  let seconds : List Shape :=
    (colon.flatMap fun c => fraction.map fun f => c ++ sixty ++ f) ++ [[]]
  (colon.flatMap fun c => seconds.map fun s => sign ++ c ++ sixty ++ s) ++ [[exactly 'Z']]

open Text (isDigit) in
/-- The shapes that the text of a field may have, the preferred ones first. -/
def Directive.shapes (zones : ZoneNames) : Directive → List Shape
  | year | weekYear => [[isDigit, isDigit, isDigit, isDigit]]
  | shortYear => [[isDigit, isDigit]]
  | month | hour12 => [[exactly '1', among '0' '2'], [exactly '0', among '1' '9'], [among '1' '9']]
  | monthName => Shape.ofNames monthNames
  | monthAbbreviation => Shape.ofNames (monthNames.map abbreviation)
  | dayOfMonth =>
    [[exactly '3', among '0' '1'], [among '1' '2', isDigit], [exactly '0', among '1' '9'],
      [among '1' '9'], [exactly ' ', among '1' '9']]
  | dayOfYear =>
    [[exactly '3', exactly '6', among '0' '6'], [exactly '3', among '0' '5', isDigit],
      [among '1' '2', isDigit, isDigit], [exactly '0', among '1' '9', isDigit],
      [exactly '0', exactly '0', among '1' '9'], [among '1' '9', isDigit],
      [exactly '0', among '1' '9'], [among '1' '9']]
  | isoWeek =>
    [[exactly '5', among '0' '3'], [exactly '0', among '1' '9'], [among '1' '4', isDigit], [isDigit]]
  | weekFromSunday | weekFromMonday =>
    [[exactly '5', among '0' '3'], [among '0' '4', isDigit], [isDigit]]
  | isoWeekday => [[among '1' '7']]
  | weekdayFromSunday => [[among '0' '6']]
  | weekdayName => Shape.ofNames weekdayNames
  | weekdayAbbreviation => Shape.ofNames (weekdayNames.map abbreviation)
  | hour24 => [[exactly '2', among '0' '3'], [among '0' '1', isDigit], [isDigit]]
  | halfDay => Shape.ofNames ["am", "pm"]
  | minute => [[among '0' '5', isDigit], [isDigit]]
  | second => [[exactly '6', among '0' '1'], [among '0' '5', isDigit], [isDigit]]
  | fraction => Shape.digits (among '0' '9')
  | offset => Shape.offsets
  | zoneName => Shape.ofNames zones.known

end CivilTime.Pattern
