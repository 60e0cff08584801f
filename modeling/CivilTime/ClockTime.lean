/-
  CivilTime.ClockTime — a time of day to the nanosecond, without a time zone.

  A day has 86400 seconds. A leap second has no second of its own: it is the second before it with
  a nanosecond of one thousand million or more, and only its text shows it as second 60.
-/

import CivilTime.Failure

namespace CivilTime

/-- A second of the day and the nanoseconds since it began. -/
structure ClockTime where
  secondOfDay : Int
  nanosecond : Int
  second_nonneg : 0 ≤ secondOfDay
  second_lt : secondOfDay < 86400
  nano_nonneg : 0 ≤ nanosecond
  nano_lt : nanosecond < 2000000000
  deriving DecidableEq

namespace ClockTime

theorem ext {a b : ClockTime} (hs : a.secondOfDay = b.secondOfDay) (hn : a.nanosecond = b.nanosecond) :
    a = b := by
  cases a; cases b; simp_all

theorem mod_day_nonneg (s : Int) : 0 ≤ s % 86400 := by omega

theorem mod_day_lt (s : Int) : s % 86400 < 86400 := by omega

/-! ## Naming a time -/

/-- The time with these fields; the nanoseconds may run on through a leap second. -/
def ofHmsNano (h m s nano : Int) : Except Failure ClockTime :=
  if ok : (0 ≤ h ∧ h < 24) ∧ (0 ≤ m ∧ m < 60) ∧ (0 ≤ s ∧ s < 60) ∧ 0 ≤ nano ∧ nano < 2000000000 then
    .ok ⟨h * 3600 + m * 60 + s, nano, by omega, by omega, by omega, by omega⟩
  else .error .invalidTime

def ofHms (h m s : Int) : Except Failure ClockTime := ofHmsNano h m s 0

def ofHmsMilli (h m s milli : Int) : Except Failure ClockTime := ofHmsNano h m s (milli * 1000000)

def ofHmsMicro (h m s micro : Int) : Except Failure ClockTime := ofHmsNano h m s (micro * 1000)

def midnight : ClockTime := ⟨0, 0, by decide, by decide, by decide, by decide⟩

/-! ## Reading a time -/

def hour (t : ClockTime) : Int := t.secondOfDay / 3600

def minute (t : ClockTime) : Int := t.secondOfDay / 60 % 60

def second (t : ClockTime) : Int := t.secondOfDay % 60

def IsLeapSecond (t : ClockTime) : Prop := 1000000000 ≤ t.nanosecond

instance (t : ClockTime) : Decidable t.IsLeapSecond := inferInstanceAs (Decidable (1000000000 ≤ t.nanosecond))

/-! ## Order -/

protected def compare (a b : ClockTime) : Ordering :=
  (compareOfLessAndEq a.secondOfDay b.secondOfDay).then (compareOfLessAndEq a.nanosecond b.nanosecond)

instance : LT ClockTime := ⟨fun a b => a.secondOfDay < b.secondOfDay ∨
  (a.secondOfDay = b.secondOfDay ∧ a.nanosecond < b.nanosecond)⟩
instance (a b : ClockTime) : Decidable (a < b) := inferInstanceAs (Decidable (a.secondOfDay < b.secondOfDay ∨
  (a.secondOfDay = b.secondOfDay ∧ a.nanosecond < b.nanosecond)))

end ClockTime

end CivilTime
