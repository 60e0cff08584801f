/-
  CivilTime.Proofs.Counting — dates and times are counted exactly.

  (1) Fields. Year, month and day name the date that has them (`CivilTime.Proofs.Days`). So it is with hour, minute,
  second and nanosecond and the times of day (`ofHmsNano_eq_ok_iff`), and with all fields together
  (`ofFields_eq_ok_iff`).

  (2) Counts. Whatever the fields of a date and time are, its count of seconds and its nanosecond lead
  back to it, and every count and nanosecond that the calendar has belong to one date and time
  (`CivilTime.Proofs.Shifting`).

  Main statement: `counts_exactly`. Since a moment is sent away as its count and its nanosecond, beside the
  state of its zone, it arrives as it was, whatever it reads in its zone.
-/

import CivilTime.Proofs.Obeying
import CivilTime.Proofs.Shifting

namespace CivilTime

open Calendar (IsDay)
open CivilDateTime (InCalendar)

/-! ## Times of day -/

namespace ClockTime

/-- There is such a time of day. Through a leap second the nanoseconds run on. -/
structure IsTime (h m s nano : Int) : Prop where
  hour : 0 ≤ h ∧ h < 24
  minute : 0 ≤ m ∧ m < 60
  second : 0 ≤ s ∧ s < 60
  nanosecond : 0 ≤ nano ∧ nano < 2000000000

variable {h m s nano : Int}

theorem isTime (t : ClockTime) : IsTime t.hour t.minute t.second t.nanosecond := by
  have := t.second_nonneg
  have := t.second_lt
  constructor
  · unfold hour; omega
  · unfold minute; omega
  · unfold second; omega
  · exact ⟨t.nano_nonneg, t.nano_lt⟩

theorem exists_ofHmsNano_iff : (∃ t, ofHmsNano h m s nano = .ok t) ↔ IsTime h m s nano := by
  unfold ofHmsNano
  constructor
  · rintro ⟨t, ht⟩
    split at ht
    · rename_i valid
      exact ⟨valid.1, valid.2.1, valid.2.2.1, valid.2.2.2⟩
    · cases ht
  · intro valid
    exact ⟨_, dif_pos ⟨valid.hour, valid.minute, valid.second, valid.nanosecond⟩⟩

/-- Hour, minute, second and nanosecond name the one time of day that has them. -/
theorem ofHmsNano_eq_ok_iff {t : ClockTime} : ofHmsNano h m s nano = .ok t ↔
    t.hour = h ∧ t.minute = m ∧ t.second = s ∧ t.nanosecond = nano := by
  constructor
  · intro ht
    unfold ofHmsNano at ht
    split at ht
    · cases ht
      unfold hour minute second
      dsimp only
      omega
    · cases ht
  · rintro ⟨rfl, rfl, rfl, rfl⟩
    have valid := t.isTime
    unfold ofHmsNano
    rw [dif_pos ⟨valid.hour, valid.minute, valid.second, valid.nanosecond⟩]
    refine congrArg Except.ok (ext ?_ rfl)
    unfold hour minute second
    dsimp only
    omega

end ClockTime

open ClockTime (IsTime)

/-! ## Dates and times -/

namespace CivilDateTime

structure HasFields (x : CivilDateTime) (y mo d h mi s nano : Int) : Prop where
  year : x.date.year = y
  month : x.date.month = mo
  day : x.date.day = d
  hour : x.time.hour = h
  minute : x.time.minute = mi
  second : x.time.second = s
  nanosecond : x.time.nanosecond = nano

variable {y mo d h mi s nano : Int}

/-- Fields name the one date and time that has them. -/
theorem ofFields_eq_ok_iff {x : CivilDateTime} :
    ofFields y mo d h mi s nano = .ok x ↔ x.HasFields y mo d h mi s nano := by
  constructor
  · intro hx
    obtain ⟨date, hdate, hx⟩ := except_bind_eq_ok.mp hx
    obtain ⟨time, htime, hx⟩ := except_bind_eq_ok.mp hx
    cases hx
    obtain ⟨year, month, day⟩ := CivilDate.ofYmd_eq_ok_iff.mp hdate
    obtain ⟨hour, minute, second, nanosecond⟩ := ClockTime.ofHmsNano_eq_ok_iff.mp htime
    exact ⟨year, month, day, hour, minute, second, nanosecond⟩
  · rintro ⟨year, month, day, hour, minute, second, nanosecond⟩
    have date := CivilDate.ofYmd_eq_ok_iff.mpr ⟨year, month, day⟩
    have time := ClockTime.ofHmsNano_eq_ok_iff.mpr ⟨hour, minute, second, nanosecond⟩
    simp only [ofFields, date, time, bind, Except.bind, pure, Except.pure]

theorem exists_ofFields_iff :
    (∃ x, ofFields y mo d h mi s nano = .ok x) ↔ IsDay y mo d ∧ IsTime h mi s nano := by
  constructor
  · rintro ⟨x, hx⟩
    obtain ⟨year, month, day, hour, minute, second, nanosecond⟩ := ofFields_eq_ok_iff.mp hx
    subst year month day hour minute second nanosecond
    exact ⟨x.date.isDay, x.time.isTime⟩
  · rintro ⟨isDay, isTime⟩
    obtain ⟨date, hdate⟩ := CivilDate.exists_ofYmd_iff.mpr isDay
    obtain ⟨time, htime⟩ := ClockTime.exists_ofHmsNano_iff.mpr isTime
    refine ⟨⟨date, time⟩, ?_⟩
    simp only [ofFields, hdate, htime, bind, Except.bind, pure, Except.pure]

end CivilDateTime

/-! ## Counting and transport -/

/-- Counts of seconds with a nanosecond, dates and times, and their fields belong to one another one by one.
What has none is refused, the nanosecond first. A moment survives being sent away as its count. -/
theorem counts_exactly (w : World) :
    (∀ secs nanos : Int,
      (CivilDateTime.ofTimestamp secs nanos = .error .invalidTime ↔ ¬ (0 ≤ nanos ∧ nanos < 2000000000)) ∧
      (CivilDateTime.ofTimestamp secs nanos = .error .invalidDateTime ↔
        (0 ≤ nanos ∧ nanos < 2000000000) ∧ ¬ InCalendar secs) ∧
      ((∃ x, CivilDateTime.ofTimestamp secs nanos = .ok x) ↔ (0 ≤ nanos ∧ nanos < 2000000000) ∧ InCalendar secs) ∧
      ∀ x, CivilDateTime.ofTimestamp secs nanos = .ok x ↔ x.timestamp = secs ∧ x.time.nanosecond = nanos) ∧
    (∀ y mo d h mi s nano : Int,
      (IsDay y mo d ∧ IsTime h mi s nano ↔ ∃ x : CivilDateTime,
        CivilDateTime.ofFields y mo d h mi s nano = .ok x ∧ x.HasFields y mo d h mi s nano ∧
        CivilDateTime.ofTimestamp x.timestamp x.time.nanosecond = .ok x)) ∧
    ∀ (m : ZonedDateTime) (args : List Value),
      (Action.transport.perform w (.moment m) args).result = .ok (.moment m) := by
  refine ⟨fun secs nanos => ⟨?_, ?_, ?_, ?_⟩, fun y mo d h mi s nano => ⟨?_, ?_⟩, fun m args => ?_⟩
  · rw [CivilDateTime.ofTimestamp_eq_error_iff]
    simp
  · rw [CivilDateTime.ofTimestamp_eq_error_iff]
    simp
  · exact CivilDateTime.exists_ofTimestamp_iff
  · intro x
    exact CivilDateTime.ofTimestamp_eq_ok_iff
  · intro valid
    obtain ⟨x, hx⟩ := CivilDateTime.exists_ofFields_iff.mpr valid
    exact ⟨x, hx, CivilDateTime.ofFields_eq_ok_iff.mp hx, x.ofTimestamp_timestamp⟩
  · rintro ⟨x, hx, -, -⟩
    exact CivilDateTime.exists_ofFields_iff.mp ⟨x, hx⟩
  · have arrives : (Value.moment m).transported = .ok (.moment m) := Value.transported_eq _
    simp only [Action.perform, Action.once, Action.onAny, arrives]
    rfl

end CivilTime
