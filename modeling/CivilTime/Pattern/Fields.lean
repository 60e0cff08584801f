/-
  CivilTime.Pattern.Fields — from the texts of fields to a date, a time and an offset.

  Fields are taken in the order of the format, and a later one overrides an earlier one on the
  same matter. What is not given is the start of 1900. A day of the year wins over month and day;
  so does a week with a day of the week, unless the day of the year is given.
-/

import CivilTime.Pattern.Directive
import CivilTime.Pattern.Fault
import CivilTime.Text.Decimal

namespace CivilTime.Pattern

open Calendar

inductive WeekStart where
  | sunday
  | monday
  deriving DecidableEq, Repr

structure Fields where
  year : Option Int := none
  weekYear : Option Int := none
  isoWeek : Option Int := none
  week : Option (WeekStart × Int) := none
  /-- The day of the week, from 1 for Monday. -/
  weekday : Option Int := none
  ordinal : Option Int := none
  month : Int := 1
  day : Int := 1
  hour : Int := 0
  minute : Int := 0
  second : Int := 0
  micro : Int := 0
  offsetMicros : Option Int := none
  deriving DecidableEq, Repr

/-- A date and time, and the offset in microseconds if the text gives one. -/
structure Parsed where
  reading : MicroDateTime
  offsetMicros : Option Int
  deriving DecidableEq

namespace Fields

open Text (number lowerText)

/-! ## Single fields -/

/-- The place of a name in a list, from 1. -/
def place (names : List String) (cs : List Char) : Except PatternFault Int :=
  let name := String.ofList (lowerText cs)
  match names.idxOf? name with
  | some i => return i + 1
  | none => .error (.notInList name)

/-- An hour of a half day; twelve o'clock comes before one. -/
def hourOf (afternoon : Bool) (h : Int) : Int := h % 12 + if afternoon then 12 else 0

/-- The microseconds that up to six digits after a point stand for. -/
def microsOf (digits : List Char) : Int := number (digits ++ List.replicate (6 - digits.length) '0')

/-- An offset in microseconds. A colon before the minutes has to be followed by one before the
seconds, and the other way around. -/
def offsetOf (cs : List Char) : Except PatternFault Int := do
  if cs = ['Z'] then return 0
  let bare ←
    if cs[3]? = some ':' then
      let short := cs.take 3 ++ cs.drop 4
      if short.length ≤ 5 then pure short
      else if short[5]? = some ':' then pure (short.take 5 ++ short.drop 6)
      else .error (.inconsistentColons (String.ofList cs))
    else pure cs
  let seconds := (bare.drop 5).take 2
  if seconds.head? = some ':' then .error (.notANumber (String.ofList seconds))
  else
    let hours := number ((bare.drop 1).take 2)
    let minutes := number ((bare.drop 3).take 2)
    let micros := (hours * 3600 + minutes * 60 + number seconds) * 1000000 + microsOf (bare.drop 8)
    return if bare.head? = some '-' then -micros else micros

def take (afternoon : Bool) (f : Fields) (d : Directive) (cs : List Char) : Except PatternFault Fields :=
  match d with
  | .year => return { f with year := some (number cs) }
  | .shortYear =>
    let y := number cs
    return { f with year := some (if y ≤ 68 then 2000 + y else 1900 + y) }
  | .weekYear => return { f with weekYear := some (number cs) }
  | .month => return { f with month := number cs }
  | .monthName => return { f with month := ← place monthNames cs }
  | .monthAbbreviation => return { f with month := ← place (monthNames.map abbreviation) cs }
  | .dayOfMonth => return { f with day := number cs }
  | .dayOfYear => return { f with ordinal := some (number cs) }
  | .isoWeek => return { f with isoWeek := some (number cs) }
  | .weekFromSunday => return { f with week := some (.sunday, number cs) }
  | .weekFromMonday => return { f with week := some (.monday, number cs) }
  | .isoWeekday => return { f with weekday := some (number cs) }
  | .weekdayFromSunday =>
    let d := number cs
    return { f with weekday := some (if d = 0 then 7 else d) }
  | .weekdayName => return { f with weekday := some (← place weekdayNames cs) }
  | .weekdayAbbreviation => return { f with weekday := some (← place (weekdayNames.map abbreviation) cs) }
  | .hour24 => return { f with hour := number cs }
  | .hour12 => return { f with hour := hourOf afternoon (number cs) }
  | .halfDay => return f
  | .minute => return { f with minute := number cs }
  | .second => return { f with second := number cs }
  | .fraction => return { f with micro := microsOf cs }
  | .offset => return { f with offsetMicros := some (← offsetOf cs) }
  | .zoneName => return f

/-- All fields of a text. Whether an hour is one of the afternoon may be said anywhere in it. -/
def ofTexts (texts : List (Directive × List Char)) : Except PatternFault Fields :=
  let afternoon := texts.any fun t => t.1 == .halfDay && lowerText t.2 == "pm".toList
  texts.foldlM (fun f t => f.take afternoon t.1 t.2) {}

/-! ## The date -/

/-- Refuses weeks and years that do not go together. -/
def check (f : Fields) : Except PatternFault Unit :=
  if f.year.isNone ∧ f.weekYear.isSome then
    if f.isoWeek.isNone ∨ f.weekday.isNone then .error .weekYearAlone
    else if f.ordinal.isSome then .error .ordinalWithWeekYear
    else .ok ()
  else if f.week.isNone ∧ f.isoWeek.isSome then
    if f.weekday.isNone then .error .weekAlone else .error .weekWithYear
  else .ok ()

def newYear (y : Int) : Except PatternFault CivilDate :=
  match CivilDate.ofFields y 1 1 with
  | .ok d => .ok d
  | .error e => .error (.field e)

/-- The day of the year of a day of the `n`-th week, where the days before the first full week are
those of week 0. It may lie before the year. -/
def ordinalInWeek (y : Int) (start : WeekStart) (n weekday : Int) : Except PatternFault Int := do
  let first := (← newYear y).weekday
  let (first, day) := match start with
    | .monday => (first - 1, weekday - 1)
    | .sunday => (first % 7, weekday % 7)
  return if n = 0 then 1 + day - first else 1 + (7 - first) % 7 + 7 * (n - 1) + day

/-- The year and the day of it of a day of a week in a week-counting year. A day before the first of
January is counted in the year before. -/
def ordinalInWeekYear (y week weekday : Int) : Except PatternFault (Int × Int) := do
  let correction := Calendar.weekday ((← newYear y).dayNumber + 3) + 3
  let k := week * 7 + weekday - correction
  if 1 ≤ k then return (y, k)
  else
    let before ← newYear (y - 1)
    return (y - 1, k + ((← newYear y).dayNumber - before.dayNumber))

/-- The day of the year that the fields name, and the year it is counted in, if they name one by
number or by week. -/
def ordinal? (f : Fields) (y : Int) : Except PatternFault (Option (Int × Int)) := do
  match f.ordinal, f.weekday with
  | some k, _ => return some (y, k)
  | none, none => return none
  | none, some weekday =>
    let found : Option (Int × Int) ←
      match f.week, f.weekYear, f.isoWeek with
      | some (start, n), _, _ => pure (some (y, ← ordinalInWeek y start n weekday))
      | none, some wy, some week => pure (some (← ordinalInWeekYear wy week weekday))
      | none, _, _ => pure none
    return found.map fun (y, k) => if k ≤ 0 then (y - 1, k + yearLength (y - 1)) else (y, k)

/-- Year, month and day. The leap day of no year in particular is looked up in 1904 and then put
into 1900, where it does not exist. -/
def date (f : Fields) : Except PatternFault (Int × Int × Int) := do
  let leapDay := f.year.isNone ∧ f.month = 2 ∧ f.day = 29
  let y := f.year.getD (if leapDay then 1904 else 1900)
  let (y, m, d) ←
    match ← f.ordinal? y with
    | none =>
      match CivilDate.ofFields y f.month f.day with
      | .ok _ => pure (y, f.month, f.day)
      | .error e => .error (.field e)
    | some (y, k) =>
      let first ← newYear y
      match CivilDate.ofDayNumber? (first.dayNumber + (k - 1)) with
      | some d => pure (d.year, d.month, d.day)
      | none => .error (.field (.year 10000))
  return (if leapDay then 1900 else y, m, d)

def resolve (f : Fields) : Except PatternFault Parsed := do
  f.check
  let (y, m, d) ← f.date
  match f.offsetMicros with
  | some o => if o ≤ -86400000000 ∨ 86400000000 ≤ o then .error .offsetTooLarge
  | none => pure ()
  match MicroDateTime.ofFields y m d f.hour f.minute f.second f.micro with
  | .ok reading => return ⟨reading, f.offsetMicros⟩
  | .error e => .error (.field e)

end Fields

end CivilTime.Pattern
