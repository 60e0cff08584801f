/-
  CivilTime.Value.Text — how values show themselves: `shown` as text of their own, `quoted` as they
  stand inside other values. A moment whose local reading lies outside the calendar cannot be shown.
-/

import CivilTime.Value

namespace CivilTime

open Text (decimal)

/-! ## On the grid of microseconds -/

namespace MicroTime

/-- The time as `HH:MM:SS`, and six digits of a fraction if there is one. -/
def text (t : MicroTime) : String :=
  String.ofList (decimal 2 t.hour.toNat ++ ':' :: decimal 2 t.minute.toNat ++ ':' :: decimal 2 t.second.toNat ++
    if t.microsecond = 0 then [] else '.' :: decimal 6 t.microsecond.toNat)

/-- The fields of the time, without seconds and microseconds that are zero at the end. -/
def fields (t : MicroTime) : List Int :=
  [t.hour, t.minute] ++
    if t.microsecond ≠ 0 then [t.second, t.microsecond]
    else if t.second ≠ 0 then [t.second]
    else []

end MicroTime

def MicroDateTime.text (x : MicroDateTime) : String := x.date.text ++ " " ++ x.time.text

def CivilDate.fields (d : CivilDate) : List Int := [d.year, d.month, d.day]

def application (name : String) (args : List Int) : String :=
  let inner := ", ".intercalate (args.map toString)
  s!"{name}({inner})"

/-! ## Values -/

namespace Value

mutual

def quoted : Value → Except Failure String
  | null => return "None"
  | flag b => return if b then "True" else "False"
  | int i => return toString i
  | text s => return Text.quoted s
  | pair a b => return application "" [a, b]
  | list vs => return "[" ++ ", ".intercalate (← quotedAll vs) ++ "]"
  | date d => return s!"NaiveDate({d.text})"
  | clockTime t => return s!"NaiveTime({t.text})"
  | dateTime x => return s!"NaiveDateTime({x.text})"
  | plainDate d => return application "datetime.date" d.fields
  | plainTime t => return application "datetime.time" t.fields
  | plainDateTime x => return application "datetime.datetime" (x.date.fields ++ x.time.fields)
  | zone z => return z.quoted
  | regionOffset o =>
    let abbreviation := match o.abbreviation with
      | some a => Text.quoted a
      | none => "None"
    return s!"TzOffset({o.offset.text}, {Text.quoted o.key}, {abbreviation})"
  | zonedDate d => return d.quoted
  | moment x => x.quoted
  | single v => return "Single(" ++ (← v.quoted) ++ ")"
  | ambiguous a b => return "Ambiguous(" ++ (← a.quoted) ++ ", " ++ (← b.quoted) ++ ")"
  | failureKind f => return s!"<ErrorKind.{f.name}: {Text.quoted f.message}>"
  | failure f => return s!"DateTimeError({Text.quoted f.message})"

def quotedAll : List Value → Except Failure (List String)
  | [] => return []
  | v :: vs => return (← v.quoted) :: (← quotedAll vs)

end

def shown : Value → Except Failure String
  | text s => return s
  | date d => return d.text
  | clockTime t => return t.text
  | dateTime x => return x.text
  | plainDate d => return d.text
  | plainTime t => return t.text
  | plainDateTime x => return x.text
  | zone .utc => return "UTC"
  | zone (.fixed o) => return o.text
  | zone (.region r) => return r.key
  | regionOffset o => return o.text
  | zonedDate d => return d.text
  | moment x => x.text
  | failureKind f => return s!"ErrorKind.{f.name}"
  | failure f => return f.message
  | v => v.quoted

end Value

end CivilTime
