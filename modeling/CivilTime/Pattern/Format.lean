/-
  CivilTime.Pattern.Format — formats taken apart into tokens, and the first way in which a text
  matches them.

  A format is read from left to right. A percent sign and a letter ask for a field or stand for
  several fields at once, a run of blanks accepts one or more blanks, and any other character
  accepts itself, be it small or capital. A text is matched token by token; a token that can take
  more than one front of the text tries them in order, and goes back to the next one when the rest
  does not match.
-/

import CivilTime.Pattern.Directive
import CivilTime.Pattern.Fault
import CivilTime.Text.Blank

namespace CivilTime.Pattern

inductive Token where
  | literal (c : Char)
  | blanks
  | field (d : Directive)
  deriving DecidableEq, Repr

namespace Token

open Directive

/-! ## Reading a format -/

def date : List Token := [field month, literal '/', field dayOfMonth, literal '/', field shortYear]

def time : List Token := [field hour24, literal ':', field minute, literal ':', field second]

def dateAndTime : List Token :=
  [field weekdayAbbreviation, blanks, field monthAbbreviation, blanks, field dayOfMonth, blanks] ++
    time ++ [blanks, field year]

def ofDirective? : Char → Option (List Token)
  | 'Y' => some [field year]
  | 'y' => some [field shortYear]
  | 'G' => some [field weekYear]
  | 'm' => some [field month]
  | 'B' => some [field monthName]
  | 'b' => some [field monthAbbreviation]
  | 'd' => some [field dayOfMonth]
  | 'j' => some [field dayOfYear]
  | 'V' => some [field isoWeek]
  | 'U' => some [field weekFromSunday]
  | 'W' => some [field weekFromMonday]
  | 'u' => some [field isoWeekday]
  | 'w' => some [field weekdayFromSunday]
  | 'A' => some [field weekdayName]
  | 'a' => some [field weekdayAbbreviation]
  | 'H' => some [field hour24]
  | 'I' => some [field hour12]
  | 'p' => some [field halfDay]
  | 'M' => some [field minute]
  | 'S' => some [field second]
  | 'f' => some [field fraction]
  | 'z' => some [field offset]
  | 'Z' => some [field zoneName]
  | 'x' => some date
  | 'X' => some time
  | 'c' => some dateAndTime
  | '%' => some [literal '%']
  | _ => none

/-- Characters that a percent sign cannot be told apart from when they follow it in vain. -/
def marks : List Char := "\\.^$*+?()\x7b\x7d[]|".toList

/-- The tokens of a format. `blank` says that the character before was a blank, so that a run of
blanks is one token. -/
def ofChars (format : String) : (blank : Bool) → List Char → Except PatternFault (List Token)
  | _, [] => return []
  | _, ['%'] => .error (.strayPercent format)
  | _, '%' :: c :: cs =>
    match ofDirective? c with
    | some tokens => return tokens ++ (← ofChars format false cs)
    | none => .error (.badDirective (if Text.isBlank c || marks.contains c then '%' else c) format)
  | blank, c :: cs =>
    if Text.isBlank c then
      if blank then ofChars format true cs else return blanks :: (← ofChars format true cs)
    else return literal c :: (← ofChars format false cs)

def directive? : Token → Option Directive
  | field d => some d
  | _ => none

/-- The tokens of a format, in which no field is asked for twice. -/
def ofFormat (format : String) : Except PatternFault (List Token) := do
  let tokens ← ofChars format false format.toList
  if (tokens.filterMap directive?).Nodup then return tokens else .error .repeatedDirective

/-! ## Matching a text -/

/-- The fronts of a text that a token can take, each with the rest, in the order of preference. -/
def splits (zones : ZoneNames) (cs : List Char) : Token → List (List Char × List Char)
  | literal a => (Shape.split? [Text.sameLetter a] cs).toList
  | blanks =>
    let n := (cs.takeWhile Text.isBlank).length
    (List.range n).reverse.map fun k => (cs.take (k + 1), cs.drop (k + 1))
  | field d => (d.shapes zones).filterMap (Shape.split? · cs)

def captured (taken : List Char) : Token → List (Directive × List Char)
  | field d => [(d, taken)]
  | _ => []

/-- The texts of the fields in the first match of a text, and what is left of it. -/
def firstMatch (zones : ZoneNames) : List Token → List Char →
    Option (List (Directive × List Char) × List Char)
  | [], cs => some ([], cs)
  | t :: ts, cs => (t.splits zones cs).findSome? fun split =>
    (firstMatch zones ts split.2).map fun r => (t.captured split.1 ++ r.1, r.2)

end Token

end CivilTime.Pattern
