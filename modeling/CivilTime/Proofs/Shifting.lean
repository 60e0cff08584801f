/-
  CivilTime.Proofs.Shifting — counts of seconds, and moving along them.

  (1) A count of seconds and a nanosecond name the one date and time that has them (`ofTimestamp_eq_ok_iff`), and
  those that the calendar has all name one (`exists_ofTimestamp_iff`). Dates and times follow one another as
  their counts and nanoseconds do (`compare_eq`).

  (2) A shift works on the second of the day and carries whole days over into the date. What comes of it is the
  sum of the counts and the nanosecond that was there (`shift_eq_ok_iff`), as long as the sum is in the calendar
  (`exists_shift_iff`). So one shift after another is one by the sum (`shift_shift`), and two dates and times that are
  shifted together stay as far apart as they were (`compare_shift`).

  Main statement: `shifts_exactly`.
-/

import CivilTime.Offset
import CivilTime.Proofs.Days

namespace CivilTime

namespace CivilDateTime

/-! ## (1) Counts -/

variable {x y : CivilDateTime} {secs nanos : Int}

/-- A count and a nanosecond name the one date and time that has them. -/
theorem ofTimestamp_eq_ok_iff :
    ofTimestamp secs nanos = .ok x ↔ x.timestamp = secs ∧ x.time.nanosecond = nanos := by
  constructor
  · exact timestamp_of_ofTimestamp
  · rintro ⟨rfl, rfl⟩
    exact x.ofTimestamp_timestamp

theorem exists_ofTimestamp_iff :
    (∃ x, ofTimestamp secs nanos = .ok x) ↔ (0 ≤ nanos ∧ nanos < 2000000000) ∧ InCalendar secs := by
  constructor
  · rintro ⟨x, hx⟩
    obtain ⟨rfl, rfl⟩ := ofTimestamp_eq_ok_iff.mp hx
    exact ⟨⟨x.time.nano_nonneg, x.time.nano_lt⟩, x.inCalendar_timestamp⟩
  · rintro ⟨nano, inside⟩
    exact exists_ofTimestamp inside nano.1 nano.2

/-- The nanosecond is looked at first, and a count can only fail by leaving the calendar. -/
theorem ofTimestamp_eq_error_iff {f : Failure} : ofTimestamp secs nanos = .error f ↔
    (f = .invalidTime ∧ ¬ (0 ≤ nanos ∧ nanos < 2000000000)) ∨
      (f = .invalidDateTime ∧ (0 ≤ nanos ∧ nanos < 2000000000) ∧ ¬ InCalendar secs) := by
  by_cases nano : 0 ≤ nanos ∧ nanos < 2000000000
  · by_cases inside : InCalendar secs
    · obtain ⟨x, hx⟩ := exists_ofTimestamp inside nano.1 nano.2
      simp [hx, nano, inside]
    · simp [ofTimestamp_of_outside nano inside, nano, inside, eq_comm]
  · simp [ofTimestamp_of_bad nano, nano, eq_comm]

/-- The second after the last one of the calendar. -/
example : ofTimestamp 253402300800 0 = .error .invalidDateTime := rfl

/-- A count has one day and one second of it. -/
theorem date_secondOfDay_of_timestamp_eq (same : x.timestamp = y.timestamp) :
    x.date = y.date ∧ x.time.secondOfDay = y.time.secondOfDay := by
  have := x.time.second_nonneg
  have := x.time.second_lt
  have := y.time.second_nonneg
  have := y.time.second_lt
  unfold timestamp at same
  exact ⟨CivilDate.ext (by omega), by omega⟩

/-- A count and another follow one another as day and second of the day do. -/
theorem compare_timestamp (a b : CivilDateTime) : compare a.timestamp b.timestamp =
    compare [a.date.dayNumber, a.time.secondOfDay] [b.date.dayNumber, b.time.secondOfDay] := by
  have := a.time.second_nonneg
  have := a.time.second_lt
  have := b.time.second_nonneg
  have := b.time.second_lt
  refine compare_eq_cons (fun le => ?_) (fun le => ?_) fun sameDay => compare_eq_singleton ?_
  all_goals
    unfold timestamp at *
    omega

/-- Dates and times follow one another as their counts do, and within a second as their nanoseconds do. -/
theorem compare_eq (a b : CivilDateTime) :
    a.compare b = compare [a.timestamp, a.time.nanosecond] [b.timestamp, b.time.nanosecond] := by
  rw [List.compare_cons_cons, compare_timestamp]
  simp only [List.compare_cons_cons, List.compare_nil_nil, Ordering.then_eq, Ordering.then_assoc]
  rfl

/-- Of two with the same nanosecond the one with the smaller count is not later. -/
theorem compare_isLE_iff {a b : CivilDateTime} (same : a.time.nanosecond = b.time.nanosecond) :
    (a.compare b).isLE ↔ a.timestamp ≤ b.timestamp := by
  rw [compare_eq, same]
  simp [List.compare_cons_cons, Int.isLE_compare]

/-! ## (2) Shifts -/

variable {s t : Int}

/-- Shifting adds to the count of seconds and leaves the nanosecond alone. -/
theorem shift_eq_ok_iff :
    x.shift s = .ok y ↔ y.timestamp = x.timestamp + s ∧ y.time.nanosecond = x.time.nanosecond := by
  rw [shift_eq_ofTimestamp]
  exact ofTimestamp_eq_ok_iff

theorem exists_shift_iff : (∃ y, x.shift s = .ok y) ↔ InCalendar (x.timestamp + s) := by
  rw [shift_eq_ofTimestamp, exists_ofTimestamp_iff]
  simp [x.time.nano_nonneg, x.time.nano_lt]

/-- A shift can only fail by leaving the calendar. -/
theorem shift_eq_error_iff {f : Failure} :
    x.shift s = .error f ↔ f = .invalidDateTime ∧ ¬ InCalendar (x.timestamp + s) := by
  rw [shift_eq_ofTimestamp, ofTimestamp_eq_error_iff]
  simp [x.time.nano_nonneg, x.time.nano_lt]

theorem shift_zero (x : CivilDateTime) : x.shift 0 = .ok x :=
  shift_eq_ok_iff.mpr ⟨(Int.add_zero _).symm, rfl⟩

/-- One shift after another is one by the sum, where the first stays in the calendar. -/
theorem shift_shift (h : x.shift s = .ok y) : y.shift t = x.shift (s + t) := by
  obtain ⟨seconds, nano⟩ := shift_eq_ok_iff.mp h
  rw [shift_eq_ofTimestamp, shift_eq_ofTimestamp, seconds, nano, Int.add_assoc]

theorem shift_back (h : x.shift s = .ok y) : y.shift (-s) = .ok x := by
  rw [shift_shift h, Int.add_right_neg]
  exact x.shift_zero

/-- Two that are shifted together stay in order. -/
theorem compare_shift {x' y' : CivilDateTime} (hx : x.shift s = .ok x') (hy : y.shift s = .ok y') :
    x'.compare y' = x.compare y := by
  obtain ⟨secondsX, nanoX⟩ := shift_eq_ok_iff.mp hx
  obtain ⟨secondsY, nanoY⟩ := shift_eq_ok_iff.mp hy
  have moved : compare x'.timestamp y'.timestamp = compare x.timestamp y.timestamp :=
    compare_eq_of_sub_eq (by omega)
  rw [compare_eq, compare_eq x y]
  simp only [List.compare_cons_cons, moved, nanoX, nanoY]

/-! ### Into local time and out of it -/

variable {o : Offset}

theorem toUtc_eq_ok_iff :
    x.toUtc o = .ok y ↔ y.timestamp + o.seconds = x.timestamp ∧ y.time.nanosecond = x.time.nanosecond := by
  refine shift_eq_ok_iff.trans (and_congr_left fun _ => ?_)
  omega

/-- Out of local time and back. -/
theorem toUtc_of_toLocal (h : x.toLocal o = .ok y) : y.toUtc o = .ok x := shift_back h

/-- A reading is taken out of local time unless that leaves the calendar. -/
theorem exists_toUtc (h : InCalendar (x.timestamp - o.seconds)) :
    ∃ u, x.toUtc o = .ok u ∧ u.timestamp = x.timestamp - o.seconds ∧ u.time.nanosecond = x.time.nanosecond := by
  obtain ⟨u, hu⟩ := exists_shift_iff.mpr h
  exact ⟨u, hu, shift_eq_ok_iff.mp hu⟩

theorem toUtc_of_outside (outside : ¬ InCalendar (x.timestamp - o.seconds)) : x.toUtc o = .error .invalidDateTime :=
  shift_eq_error_iff.mpr ⟨rfl, outside⟩

/-- To go out of local time is to go into the local time that is as far on the other side of UTC. -/
theorem toUtc_eq_toLocal (x : CivilDateTime) (o : Offset) :
    ∃ p, Offset.ofSeconds? (-o.seconds) = some p ∧ x.toUtc o = x.toLocal p := by
  have lo := o.neg_day_lt
  have hi := o.lt_day
  exact ⟨⟨-o.seconds, by omega, by omega⟩, Offset.ofSeconds?_eq_some.mpr rfl, rfl⟩

/-! ## Moving by a number of seconds -/

/-- A date and time is moved by a number of seconds, which happens as long as the calendar has the sum. The second, and
with it date, hour, minute and second, is that of the sum; the nanosecond, also of a leap second, is kept. -/
structure Moves (x : CivilDateTime) (s : Int) (moved : Except Failure CivilDateTime) : Prop where
  exists_iff : (∃ y, moved = .ok y) ↔ InCalendar (x.timestamp + s)
  error_iff : moved = .error .invalidDateTime ↔ ¬ InCalendar (x.timestamp + s)
  timestamp : ∀ y, moved = .ok y → y.timestamp = x.timestamp + s
  nanosecond : ∀ y, moved = .ok y → y.time.nanosecond = x.time.nanosecond
  fields : ∀ y, moved = .ok y → ∃ z, ofTimestamp (x.timestamp + s) 0 = .ok z ∧ y.date = z.date ∧
    y.time.hour = z.time.hour ∧ y.time.minute = z.time.minute ∧ y.time.second = z.time.second

theorem moves_shift (x : CivilDateTime) (s : Int) : Moves x s (x.shift s) where
  exists_iff := exists_shift_iff
  error_iff := by simp [shift_eq_error_iff]
  timestamp y h := (shift_eq_ok_iff.mp h).1
  nanosecond y h := (shift_eq_ok_iff.mp h).2
  fields y h := by
    obtain ⟨seconds, -⟩ := shift_eq_ok_iff.mp h
    have inside : InCalendar (x.timestamp + s) := exists_shift_iff.mp ⟨y, h⟩
    obtain ⟨z, hz⟩ := exists_ofTimestamp inside (n := 0) (by decide) (by decide)
    have same : y.timestamp = z.timestamp := seconds.trans (ofTimestamp_eq_ok_iff.mp hz).1.symm
    obtain ⟨date, secondOfDay⟩ := date_secondOfDay_of_timestamp_eq same
    refine ⟨z, hz, date, ?_, ?_, ?_⟩
    · unfold ClockTime.hour
      rw [secondOfDay]
    · unfold ClockTime.minute
      rw [secondOfDay]
    · unfold ClockTime.second
      rw [secondOfDay]

end CivilDateTime

/-- To add an offset moves a date and time by its seconds, and to take it away is to add the opposite one. Adding can be
undone, two offsets can be added in any order, and what is earlier stays earlier. -/
theorem shifts_exactly (x y : CivilDateTime) (a b : Offset) :
    CivilDateTime.Moves x a.seconds (x.toLocal a) ∧
    (∃ c, Offset.ofSeconds? (-a.seconds) = some c ∧ x.toUtc a = x.toLocal c) ∧
    (∀ x', x.toLocal a = .ok x' → x'.toUtc a = .ok x) ∧
    (∀ u v, x.toLocal a = .ok u → x.toLocal b = .ok v → u.toLocal b = v.toLocal a) ∧
    ∀ x' y', x.toLocal a = .ok x' → y.toLocal a = .ok y' → x'.compare y' = x.compare y := by
  refine ⟨CivilDateTime.moves_shift x a.seconds, x.toUtc_eq_toLocal a, ?_, ?_, ?_⟩
  · intro x' h
    exact CivilDateTime.toUtc_of_toLocal h
  · intro u v hu hv
    calc u.toLocal b = x.shift (a.seconds + b.seconds) := CivilDateTime.shift_shift hu
      _ = x.shift (b.seconds + a.seconds) := by rw [Int.add_comm]
      _ = v.toLocal a := (CivilDateTime.shift_shift hv).symm
  · intro x' y' hx hy
    exact CivilDateTime.compare_shift hx hy

end CivilTime
