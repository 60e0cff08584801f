/-
  CivilTime.Text.Written — how dates, times and offsets are written.

  Fields have a fixed width. A fraction of a second has no digits if it is zero, else the fewest of
  three, six or nine that show it whole. A leap second is shown as second 60 with the fraction
  that is left of it.
-/

import CivilTime.Microsecond
import CivilTime.Offset
import CivilTime.Text.Decimal

namespace CivilTime

open Text

/-! ## Without a zone -/

namespace CivilDate

def chars (d : CivilDate) : List Char :=
  decimal 4 d.year.toNat ++ '-' :: decimal 2 d.month.toNat ++ '-' :: decimal 2 d.day.toNat

/-- The date as `YYYY-MM-DD`. -/
def text (d : CivilDate) : String := String.ofList d.chars

end CivilDate

def fraction (nanos : Int) : List Char :=
  if nanos = 0 then []
  else if nanos % 1000000 = 0 then '.' :: decimal 3 (nanos / 1000000).toNat
  else if nanos % 1000 = 0 then '.' :: decimal 6 (nanos / 1000).toNat
  else '.' :: decimal 9 nanos.toNat

namespace ClockTime

/-- The second that is shown: the one after, in a leap second. -/
def shownSecond (t : ClockTime) : Int := t.second + t.nanosecond / 1000000000

def shownNano (t : ClockTime) : Int := t.nanosecond % 1000000000

def chars (t : ClockTime) : List Char :=
  decimal 2 t.hour.toNat ++ ':' :: decimal 2 t.minute.toNat ++ ':' :: decimal 2 t.shownSecond.toNat ++
    fraction t.shownNano

/-- The time as `HH:MM:SS`, with the digits of a fraction that it needs. -/
def text (t : ClockTime) : String := String.ofList t.chars

end ClockTime

namespace CivilDateTime

def charsWith (mark : Char) (x : CivilDateTime) : List Char := x.date.chars ++ mark :: x.time.chars

def text (x : CivilDateTime) : String := String.ofList (x.charsWith ' ')

def isoText (x : CivilDateTime) : String := String.ofList (x.charsWith 'T')

end CivilDateTime

/-! ## Offsets -/

namespace Offset

def chars (o : Offset) : List Char :=
  let s := o.seconds.natAbs
  (if o.seconds < 0 then '-' else '+') :: decimal 2 (s / 3600) ++ ':' :: decimal 2 (s / 60 % 60) ++
    if s % 60 = 0 then [] else ':' :: decimal 2 (s % 60)

/-- The offset as a sign, hours and minutes, and seconds where there are any. -/
def text (o : Offset) : String := String.ofList o.chars

end Offset

/-- The abbreviation of a region's offset, and the offset itself where it has none. -/
def RegionOffset.text (o : RegionOffset) : String :=
  match o.abbreviation with
  | some a => if a.isEmpty then o.offset.text else a
  | none => o.offset.text

/-- A span of time below a day, given in microseconds, as `H:MM:SS` and a fraction if it needs
one. A negative span is shown as what is added to minus one day. -/
def spanText (micros : Int) : String :=
  let rest := micros % 86400000000
  let s := (rest / 1000000).toNat
  let us := (rest % 1000000).toNat
  String.ofList ((if micros < 0 then "-1 day, ".toList else []) ++ (toString (s / 3600)).toList ++
    ':' :: decimal 2 (s / 60 % 60) ++ ':' :: decimal 2 (s % 60) ++
    if us = 0 then [] else '.' :: decimal 6 us)

end CivilTime
