/-
  CivilTime.CivilDateTime — a date and a time of day, without a time zone.

  Read as UTC, a date and time is a count of seconds from 1970-01-01 00:00:00 (`timestamp`), and
  `ofTimestamp` takes such a count back. Local and UTC readings of one moment differ by `shift`.
  Counts outside the calendar answer `Failure.invalidDateTime`.

  `ofTimestamp_timestamp`, `timestamp_of_ofTimestamp`: counting and taking back undo each other.
  `shift_eq_ofTimestamp`: shifting adds to the count.
-/

import CivilTime.CivilDate
import CivilTime.ClockTime

namespace CivilTime

structure CivilDateTime where
  date : CivilDate
  time : ClockTime
  deriving DecidableEq

namespace CivilDateTime

def epochDay : Int := 719163

/-- The seconds, counted from the epoch, that the calendar holds. -/
def InCalendar (s : Int) : Prop := -62135596800 ≤ s ∧ s ≤ 253402300799

instance (s : Int) : Decidable (InCalendar s) := inferInstanceAs (Decidable (_ ∧ _))

/-! ## Counting seconds -/

/-- The seconds since the epoch. A leap second counts as the second before it. -/
def timestamp (x : CivilDateTime) : Int :=
  (x.date.dayNumber - epochDay) * 86400 + x.time.secondOfDay

def timestampMillis (x : CivilDateTime) : Int := x.timestamp * 1000 + x.time.nanosecond / 1000000

def timestampNanos (x : CivilDateTime) : Int := x.timestamp * 1000000000 + x.time.nanosecond

def ofTimestamp (secs nanos : Int) : Except Failure CivilDateTime :=
  if ok : 0 ≤ nanos ∧ nanos < 2000000000 then
    match CivilDate.ofDayNumber? (secs / 86400 + epochDay) with
    | some d => .ok ⟨d, ⟨secs % 86400, nanos, ClockTime.mod_day_nonneg secs, ClockTime.mod_day_lt secs, ok.1, ok.2⟩⟩
    | none => .error .invalidDateTime
  else .error .invalidTime

/-- The date and time `s` seconds later; the nanosecond, that of a leap second too, stays. -/
def shift (x : CivilDateTime) (s : Int) : Except Failure CivilDateTime :=
  let total := x.time.secondOfDay + s
  match CivilDate.ofDayNumber? (x.date.dayNumber + total / 86400) with
  | some d => .ok ⟨d, ⟨total % 86400, x.time.nanosecond, ClockTime.mod_day_nonneg total,
      ClockTime.mod_day_lt total, x.time.nano_nonneg, x.time.nano_lt⟩⟩
  | none => .error .invalidDateTime

/-! ## The count is exact -/

theorem inCalendar_timestamp (x : CivilDateTime) : InCalendar x.timestamp := by
  have := x.date.one_le; have := x.date.le_last
  have := x.time.second_nonneg; have := x.time.second_lt
  unfold InCalendar timestamp epochDay
  omega

/-- A date and time is the one that its count of seconds and its nanosecond name. -/
theorem ofTimestamp_timestamp (x : CivilDateTime) : ofTimestamp x.timestamp x.time.nanosecond = .ok x := by
  have := x.time.second_nonneg; have := x.time.second_lt
  have day : x.timestamp / 86400 + epochDay = x.date.dayNumber := by
    unfold timestamp epochDay; omega
  have second : x.timestamp % 86400 = x.time.secondOfDay := by
    unfold timestamp epochDay; omega
  simp [ofTimestamp, x.time.nano_nonneg, x.time.nano_lt, day, second, CivilDate.ofDayNumber?_dayNumber]

/-- Shifting adds to the count of seconds and leaves the nanosecond alone. -/
theorem shift_eq_ofTimestamp (x : CivilDateTime) (s : Int) :
    x.shift s = ofTimestamp (x.timestamp + s) x.time.nanosecond := by
  have day : (x.timestamp + s) / 86400 + epochDay = x.date.dayNumber + (x.time.secondOfDay + s) / 86400 := by
    unfold timestamp epochDay; omega
  have second : (x.timestamp + s) % 86400 = (x.time.secondOfDay + s) % 86400 := by
    unfold timestamp epochDay; omega
  simp [shift, ofTimestamp, x.time.nano_nonneg, x.time.nano_lt, day, second]

/-- What a count of seconds and a nanosecond name has them. -/
theorem timestamp_of_ofTimestamp {s n : Int} {x : CivilDateTime} (h : ofTimestamp s n = .ok x) :
    x.timestamp = s ∧ x.time.nanosecond = n := by
  unfold ofTimestamp CivilDate.ofDayNumber? at h
  split at h
  · split at h
    · rename_i d hd
      split at hd
      · cases hd; cases h; simp [timestamp]; omega
      · cases hd
    · cases h
  · cases h

/-- A second in the calendar and a nanosecond name a date and time. -/
theorem exists_ofTimestamp {s n : Int} (hs : InCalendar s) (lo : 0 ≤ n) (hi : n < 2000000000) :
    ∃ x, ofTimestamp s n = .ok x := by
  have day : 1 ≤ s / 86400 + epochDay ∧ s / 86400 + epochDay ≤ 3652059 := by
    unfold InCalendar at hs; unfold epochDay; omega
  simp [ofTimestamp, CivilDate.ofDayNumber?, lo, hi, day]

theorem ofTimestamp_of_bad {s n : Int} (bad : ¬ (0 ≤ n ∧ n < 2000000000)) : ofTimestamp s n = .error .invalidTime := by
  unfold ofTimestamp
  rw [dif_neg bad]

theorem ofTimestamp_of_outside {s n : Int} (good : 0 ≤ n ∧ n < 2000000000) (outside : ¬ InCalendar s) :
    ofTimestamp s n = .error .invalidDateTime := by
  have beyond : ¬ (1 ≤ s / 86400 + epochDay ∧ s / 86400 + epochDay ≤ 3652059) := by
    unfold InCalendar at outside
    unfold epochDay
    omega
  unfold ofTimestamp CivilDate.ofDayNumber?
  rw [dif_pos good, dif_neg beyond]

/-- Two dates and times with the same count of seconds and the same nanosecond are the same. -/
theorem ext_timestamp {x y : CivilDateTime} (hs : x.timestamp = y.timestamp)
    (hn : x.time.nanosecond = y.time.nanosecond) : x = y := by
  have h := ofTimestamp_timestamp x
  rw [hs, hn, ofTimestamp_timestamp y] at h
  exact (Except.ok.inj h).symm

/-! ## Naming a date and time -/

/-- The date and time with these fields. A date that does not exist is reported before a time. -/
def ofFields (y mo d h mi s nano : Int) : Except Failure CivilDateTime := do
  let date ← CivilDate.ofYmd y mo d
  let time ← ClockTime.ofHmsNano h mi s nano
  return ⟨date, time⟩

def startOf (d : CivilDate) : CivilDateTime := ⟨d, .midnight⟩

/-! ## Order -/

protected def compare (a b : CivilDateTime) : Ordering := (a.date.compare b.date).then (a.time.compare b.time)

instance : LT CivilDateTime := ⟨fun a b => a.date < b.date ∨ (a.date = b.date ∧ a.time < b.time)⟩
instance (a b : CivilDateTime) : Decidable (a < b) :=
  inferInstanceAs (Decidable (a.date < b.date ∨ (a.date = b.date ∧ a.time < b.time)))

end CivilDateTime

end CivilTime
