/-
  CivilTime.Pattern.Fault — why a text cannot be read as a date and time by a format.
-/

import CivilTime.Microsecond
import CivilTime.Text.Quoted

namespace CivilTime

inductive PatternFault where
  /-- The format has a percent sign before a character that names no directive. -/
  | badDirective (c : Char) (format : String)
  /-- The format ends in a percent sign. -/
  | strayPercent (format : String)
  /-- The format asks for one field twice. -/
  | repeatedDirective
  | mismatch (text format : String)
  /-- The format is used up and this is left. -/
  | unconverted (rest : String)
  /-- A name whose letters only look like those of a day or month. -/
  | notInList (name : String)
  | inconsistentColons (offset : String)
  | notANumber (text : String)
  | weekYearAlone
  | weekAlone
  | weekWithYear
  | ordinalWithWeekYear
  /-- The offset is a day or more. -/
  | offsetTooLarge
  | field (f : FieldFault)
  deriving DecidableEq, Repr

def PatternFault.message : PatternFault → String
  | badDirective c format => s!"'{c}' is a bad directive in format '{format}'"
  | strayPercent format => s!"stray % in format '{format}'"
  | repeatedDirective => ""
  | mismatch text format => s!"time data {Text.quoted text} does not match format {Text.quoted format}"
  | unconverted rest => s!"unconverted data remains: {rest}"
  | notInList name => s!"{Text.quoted name} is not in list"
  | inconsistentColons offset => s!"Inconsistent use of : in {offset}"
  | notANumber text => s!"invalid literal for int() with base 10: {Text.quoted text}"
  | weekYearAlone => "ISO year directive '%G' must be used with the ISO week directive '%V' and a " ++
      "weekday directive ('%A', '%a', '%w', or '%u')."
  | weekAlone => "ISO week directive '%V' must be used with the ISO year directive '%G' and a " ++
      "weekday directive ('%A', '%a', '%w', or '%u')."
  | weekWithYear => "ISO week directive '%V' is incompatible with the year directive '%Y'. Use the " ++
      "ISO year '%G' instead."
  | ordinalWithWeekYear => "Day of the year directive '%j' is not compatible with ISO year directive " ++
      "'%G'. Use '%Y' instead."
  | offsetTooLarge => "offset must be strictly between minus one day and one day"
  | field f => f.message

end CivilTime
