/-
  CivilTime.Proofs.Microseconds — going down to whole microseconds, and back up.

  (1) A date and time on the grid of whole microseconds comes back from the fine one unchanged (`toMicro_toCivil`), and
  it is not after one on the fine grid just if it is not after what is left of that on the way down
  (`toCivil_notAfter_iff`). A leap second is held back at the last microsecond before it, so this is true of leap
  seconds as well.

  (2) Going down and back up is `CivilDateTime.floorMicro`. Since it is the last on the grid that is not after where it
  started, it never goes up, keeps the order, and does nothing the second time.

  Main statement: `floors_to_micro`.
-/

import CivilTime.Proofs.Shifting
import CivilTime.Proofs.WellFormed

namespace CivilTime

/-! ## (1) The two grids -/

namespace CivilDateTime

def NotAfter (a b : CivilDateTime) : Prop := (a.compare b).isLE

variable {x y z : CivilDateTime}

theorem notAfter_iff : x.NotAfter y ↔
    x.timestamp < y.timestamp ∨ x.timestamp = y.timestamp ∧ x.time.nanosecond ≤ y.time.nanosecond := by
  unfold NotAfter
  rw [compare_eq, List.compare_cons_cons, List.compare_cons_cons, List.compare_nil_nil, Ordering.then_eq]
  rcases Int.lt_trichotomy x.timestamp y.timestamp with less | same | more
  · simp [Int.compare_eq_lt.mpr less, less]
  · simp [same, Int.isLE_compare]
  · simp [Int.compare_eq_gt.mpr more]
    omega

theorem NotAfter.refl (x : CivilDateTime) : x.NotAfter x := notAfter_iff.mpr (.inr ⟨rfl, Int.le_refl _⟩)

theorem NotAfter.trans (hxy : x.NotAfter y) (hyz : y.NotAfter z) : x.NotAfter z := by
  rw [notAfter_iff] at *
  omega

/-- A date and time taken down to the grid of whole microseconds, and back up to the fine one. -/
def floorMicro (x : CivilDateTime) : CivilDateTime := x.toMicro.toCivil

@[simp] theorem timestamp_floorMicro (x : CivilDateTime) : x.floorMicro.timestamp = x.timestamp := rfl

theorem nanosecond_floorMicro (x : CivilDateTime) :
    x.floorMicro.time.nanosecond = min x.time.nanosecond 999999999 / 1000 * 1000 := rfl

end CivilDateTime

open CivilDateTime (NotAfter notAfter_iff)

namespace MicroDateTime

variable {x : CivilDateTime}

/-- On the way up and down nothing is lost. -/
theorem toMicro_toCivil (d : MicroDateTime) : d.toCivil.toMicro = d := by
  have micro : min (d.time.microsecond * 1000) 999999999 / 1000 = d.time.microsecond := by
    have := d.time.micro_lt
    omega
  have time : d.time.toClockTime.toMicro = d.time := MicroTime.ext_iff.mpr ⟨rfl, micro⟩
  show (⟨d.date, d.time.toClockTime.toMicro⟩ : MicroDateTime) = d
  rw [time]

/-- What is on the grid and not after a date and time is not after what is left of it on the way down. -/
theorem toCivil_notAfter_iff (d : MicroDateTime) : d.toCivil.NotAfter x ↔ d.toCivil.NotAfter x.floorMicro := by
  have := d.time.micro_lt
  have nano : d.toCivil.time.nanosecond = d.time.microsecond * 1000 := rfl
  rw [notAfter_iff, notAfter_iff, x.timestamp_floorMicro, x.nanosecond_floorMicro, nano]
  omega

end MicroDateTime

/-! ## (2) Going down -/

namespace CivilDateTime

open MicroDateTime (toCivil_notAfter_iff toMicro_toCivil)

theorem floorMicro_notAfter (x : CivilDateTime) : x.floorMicro.NotAfter x :=
  (toCivil_notAfter_iff x.toMicro).mpr (NotAfter.refl _)

theorem floorMicro_mono {x y : CivilDateTime} (h : x.NotAfter y) : x.floorMicro.NotAfter y.floorMicro :=
  (toCivil_notAfter_iff x.toMicro).mp (x.floorMicro_notAfter.trans h)

theorem floorMicro_floorMicro (x : CivilDateTime) : x.floorMicro.floorMicro = x.floorMicro := by
  unfold floorMicro
  rw [toMicro_toCivil]

/-- Only what is on the grid stays as it is. -/
theorem floorMicro_eq_self_iff {x : CivilDateTime} :
    x.floorMicro = x ↔ x.time.nanosecond < 1000000000 ∧ x.time.nanosecond % 1000 = 0 := by
  constructor
  · intro same
    have nano := x.nanosecond_floorMicro
    rw [same] at nano
    omega
  · rintro ⟨ordinary, micros⟩
    exact toCivil_toMicro ordinary micros

/-- A leap second goes down to the last microsecond of the second before it. -/
theorem nanosecond_floorMicro_of_leapSecond {x : CivilDateTime} (leap : x.time.IsLeapSecond) :
    x.floorMicro.time.nanosecond = 999999000 := by
  unfold ClockTime.IsLeapSecond at leap
  rw [nanosecond_floorMicro]
  omega

end CivilDateTime

/-- The first date and time is on the grid of whole microseconds, and the last one there that is not after the
second. -/
structure IsLastMicro (y x : CivilDateTime) : Prop where
  onGrid : ∃ d : MicroDateTime, d.toCivil = y
  notAfter : y.NotAfter x
  last : ∀ d : MicroDateTime, d.toCivil.NotAfter x → d.toCivil.NotAfter y

theorem isLastMicro_floorMicro (x : CivilDateTime) : IsLastMicro x.floorMicro x where
  onGrid := ⟨x.toMicro, rfl⟩
  notAfter := x.floorMicro_notAfter
  last d := d.toCivil_notAfter_iff.mp

/-- What comes of a date and time that goes down to the grid of whole microseconds and back up. Its fields make one of
the grid, and a leap second is held back at the last microsecond of its second. -/
structure FloorsToMicro (x : CivilDateTime) : Prop where
  made : MicroDateTime.ofFields x.date.year x.date.month x.date.day x.time.hour x.time.minute x.time.second
    (min x.time.nanosecond 999999999 / 1000) = .ok x.toMicro
  last : IsLastMicro x.floorMicro x
  again : x.floorMicro.floorMicro = x.floorMicro
  same_iff : x.floorMicro = x ↔ x.time.nanosecond < 1000000000 ∧ x.time.nanosecond % 1000 = 0
  mono : ∀ y : CivilDateTime, x.NotAfter y → x.floorMicro.NotAfter y.floorMicro
  timestamp : x.floorMicro.timestamp = x.timestamp
  leapSecond : x.time.IsLeapSecond → x.floorMicro.time.nanosecond = 999999000

/-- Dates and times come back from the fine grid as they were, and go down to the grid of whole microseconds in order,
each to the last one there that is not after it. -/
theorem floors_to_micro (x : CivilDateTime) (d : MicroDateTime) : d.toCivil.toMicro = d ∧ FloorsToMicro x := by
  refine ⟨d.toMicro_toCivil, ?_⟩
  constructor
  case made => exact x.wellFormed.plain
  case last => exact isLastMicro_floorMicro x
  case again => exact x.floorMicro_floorMicro
  case same_iff => exact CivilDateTime.floorMicro_eq_self_iff
  case mono =>
    intro y h
    exact CivilDateTime.floorMicro_mono h
  case timestamp => exact x.timestamp_floorMicro
  case leapSecond => exact CivilDateTime.nanosecond_floorMicro_of_leapSecond

end CivilTime
