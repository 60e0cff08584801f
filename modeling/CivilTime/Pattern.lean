/-
  CivilTime.Pattern — reading a date and time from a text by a format.
-/

import CivilTime.Pattern.Fields
import CivilTime.Pattern.Format

namespace CivilTime.Pattern

/-- The date and time that a text names in a format. The text has to match the format and to end
with it, and its fields have to make a date and time. -/
def read (zones : ZoneNames) (text format : String) : Except PatternFault Parsed := do
  let tokens ← Token.ofFormat format
  match Token.firstMatch zones tokens text.toList with
  | none => .error (.mismatch text format)
  | some (texts, rest) =>
    if rest.isEmpty then (← Fields.ofTexts texts).resolve
    else .error (.unconverted (String.ofList rest))

end CivilTime.Pattern
