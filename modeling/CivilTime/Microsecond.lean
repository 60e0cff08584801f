/-
  CivilTime.Microsecond — times and dates with times on the coarser grid of whole microseconds,
  on which there are no leap seconds. Going down to the grid drops what is finer than a
  microsecond and holds a leap second back to the last microsecond before it.
-/

import CivilTime.CivilDateTime

namespace CivilTime

structure MicroTime where
  secondOfDay : Int
  microsecond : Int
  second_nonneg : 0 ≤ secondOfDay
  second_lt : secondOfDay < 86400
  micro_nonneg : 0 ≤ microsecond
  micro_lt : microsecond < 1000000

namespace MicroTime

theorem ext_iff {a b : MicroTime} :
    a = b ↔ a.secondOfDay = b.secondOfDay ∧ a.microsecond = b.microsecond := by
  cases a; cases b; simp

instance : DecidableEq MicroTime := fun _ _ => decidable_of_iff _ ext_iff.symm

def hour (t : MicroTime) : Int := t.secondOfDay / 3600

def minute (t : MicroTime) : Int := t.secondOfDay / 60 % 60

def second (t : MicroTime) : Int := t.secondOfDay % 60

def toClockTime (t : MicroTime) : ClockTime :=
  ⟨t.secondOfDay, t.microsecond * 1000, t.second_nonneg, t.second_lt,
    by have := t.micro_nonneg; omega, by have := t.micro_lt; omega⟩

protected def compare (a b : MicroTime) : Ordering :=
  (compareOfLessAndEq a.secondOfDay b.secondOfDay).then (compareOfLessAndEq a.microsecond b.microsecond)

end MicroTime

/-- The last microsecond that has begun, within the second that the time stands for. -/
def ClockTime.toMicro (t : ClockTime) : MicroTime :=
  ⟨t.secondOfDay, min t.nanosecond 999999999 / 1000, t.second_nonneg, t.second_lt,
    by have := t.nano_nonneg; omega, by omega⟩

structure MicroDateTime where
  date : CivilDate
  time : MicroTime
  deriving DecidableEq

namespace MicroDateTime

def toCivil (x : MicroDateTime) : CivilDateTime := ⟨x.date, x.time.toClockTime⟩

protected def compare (a b : MicroDateTime) : Ordering := (a.date.compare b.date).then (a.time.compare b.time)

end MicroDateTime

def CivilDateTime.toMicro (x : CivilDateTime) : MicroDateTime := ⟨x.date, x.time.toMicro⟩

/-! ## Fields of a date and time on the grid -/

/-- Why fields do not make a date and time. A field is first read as a machine integer of 64 bits,
then narrowed to 32 bits, and only then compared with its range. -/
inductive FieldFault where
  | beyondWord
  | aboveNarrow
  | belowNarrow
  | year (y : Int)
  | month
  | day
  | hour
  | minute
  | second
  | microsecond
  deriving DecidableEq, Repr

def FieldFault.message : FieldFault → String
  | beyondWord => "Python int too large to convert to C long"
  | aboveNarrow => "signed integer is greater than maximum"
  | belowNarrow => "signed integer is less than minimum"
  | year y => s!"year {y} is out of range"
  | month => "month must be in 1..12"
  | day => "day is out of range for month"
  | hour => "hour must be in 0..23"
  | minute => "minute must be in 0..59"
  | second => "second must be in 0..59"
  | microsecond => "microsecond must be in 0..999999"

/-- Passes a number that fits a machine integer of 32 bits. -/
def FieldFault.narrow (n : Int) : Except FieldFault Unit :=
  if n < -9223372036854775808 ∨ 9223372036854775807 < n then .error .beyondWord
  else if 2147483647 < n then .error .aboveNarrow
  else if n < -2147483648 then .error .belowNarrow
  else .ok ()

/-- The date with these fields, or the first field that is out of range. -/
def CivilDate.ofFields (y m d : Int) : Except FieldFault CivilDate := do
  [y, m, d].forM FieldFault.narrow
  if y < 1 ∨ 9999 < y then .error (.year y)
  else if m < 1 ∨ 12 < m then .error .month
  else match CivilDate.ofYmd y m d with
    | .ok date => .ok date
    | .error _ => .error .day

def MicroTime.ofFields (h m s us : Int) : Except FieldFault MicroTime :=
  if hh : h < 0 ∨ 23 < h then .error .hour
  else if hm : m < 0 ∨ 59 < m then .error .minute
  else if hs : s < 0 ∨ 59 < s then .error .second
  else if hu : us < 0 ∨ 999999 < us then .error .microsecond
  else .ok ⟨h * 3600 + m * 60 + s, us, by omega, by omega, by omega, by omega⟩

def MicroDateTime.ofFields (y mo d h mi s us : Int) : Except FieldFault MicroDateTime := do
  [y, mo, d, h, mi, s, us].forM FieldFault.narrow
  let date ← CivilDate.ofFields y mo d
  let time ← MicroTime.ofFields h mi s us
  return ⟨date, time⟩

end CivilTime
