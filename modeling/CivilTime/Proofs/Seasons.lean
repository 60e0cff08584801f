/-
  CivilTime.Proofs.Seasons — daylight saving time by the year.

  Daylight saving time starts and stops at one instant of UTC each in every year (`Seasons`), and
  whether it is in force at a second is asked of a year: that of the second in UTC, or that of a
  reading on the clock. Near New Year these are different years. Seasons are regular if start and
  stop come in the same order in all years, far enough from New Year and from one another; then it
  does not matter which of the two years is asked (`Seasons.inForce_year`).
-/

import CivilTime.Proofs.Timeline

namespace CivilTime

open Calendar
open CivilDateTime (InCalendar)
open ZoneRule (Between)

/-! ## Years in seconds -/

def yearBegins (y : Int) : Int := (daysBeforeYear y + 1 - CivilDateTime.epochDay) * 86400

theorem yearOfSecond_eq_iff {t y : Int} : yearOfSecond t = y ↔ yearBegins y ≤ t ∧ t < yearBegins (y + 1) := by
  unfold yearOfSecond yearBegins
  rw [yearOfDay_eq_iff]
  omega

theorem yearBegins_yearOfSecond_le (t : Int) : yearBegins (yearOfSecond t) ≤ t :=
  (yearOfSecond_eq_iff.mp rfl).1

theorem lt_yearBegins_yearOfSecond_succ (t : Int) : t < yearBegins (yearOfSecond t + 1) :=
  (yearOfSecond_eq_iff.mp rfl).2

theorem yearBegins_succ (y : Int) : yearBegins y + 31536000 ≤ yearBegins (y + 1) := by
  have := daysBeforeYear_succ y
  unfold yearLength at this
  unfold yearBegins
  split at this <;> omega

theorem yearBegins_mono {a b : Int} (h : a ≤ b) : yearBegins a ≤ yearBegins b := by
  have := daysBeforeYear_mono h
  unfold yearBegins; omega

theorem le_yearOfSecond_iff {t y : Int} : y ≤ yearOfSecond t ↔ yearBegins y ≤ t := by
  have lo := yearBegins_yearOfSecond_le t
  have hi := lt_yearBegins_yearOfSecond_succ t
  constructor
  · intro le
    have := yearBegins_mono le; omega
  · intro le
    by_cases less : yearOfSecond t + 1 ≤ y
    · have := yearBegins_mono less; omega
    · omega

/-- Of two seconds that are not a year apart, the later one is of the next year at most. -/
theorem yearOfSecond_eq_succ {t w : Int} (less : yearOfSecond t < yearOfSecond w) (near : w - t ≤ 31536000) :
    yearOfSecond w = yearOfSecond t + 1 := by
  have whole := yearBegins_succ (yearOfSecond t + 1)
  have after := lt_yearBegins_yearOfSecond_succ t
  by_cases more : yearOfSecond t + 1 + 1 ≤ yearOfSecond w
  · have := le_yearOfSecond_iff.mp more; omega
  · omega

/-- A change stands at a time of some day of its year. -/
theorem RuleDate.reading_eq (c : DayCount) (y : Int) (r : RuleDate) :
    r.reading c y = yearBegins y + (r.day.ordinal c y - 1) * 86400 + r.time := by
  unfold reading yearBegins; omega

theorem daysInMonth_bounds (y : Int) {m : Int} (lo : 1 ≤ m) (hi : m ≤ 12) :
    28 ≤ daysInMonth y m ∧ daysInMonth y m ≤ 31 := by
  unfold daysInMonth daysBeforeMonth
  split <;> split <;> (try split) <;> omega

theorem daysBeforeMonth_bounds (y m : Int) :
    (367 * m - 362) / 12 - 2 ≤ daysBeforeMonth y m ∧ daysBeforeMonth y m ≤ (367 * m - 362) / 12 := by
  unfold daysBeforeMonth
  split <;> (try split) <;> omega

/-- The last such weekday of a month is one of its last seven days, and every month ends about a
twelfth of a year after the one before. -/
theorem RuleDate.reading_last (c : DayCount) (y weekday time : Int) {m : Int} (lo : 1 ≤ m) (hi : m ≤ 12) :
    yearBegins y + ((367 * m + 5) / 12 - 9) * 86400 + time ≤ reading c y ⟨.weekdayOfMonth m 5 weekday, time⟩ ∧
      reading c y ⟨.weekdayOfMonth m 5 weekday, time⟩ ≤ yearBegins y + (367 * m + 5) / 12 * 86400 + time := by
  have days := daysInMonth_bounds y lo hi
  have month : daysInMonth y m = daysBeforeMonth y (m + 1) - daysBeforeMonth y m := rfl
  have bounds := daysBeforeMonth_bounds y (m + 1)
  rw [reading_eq]
  simp only [RuleDay.ordinal]
  split <;> omega

theorem year_bounds_of_inCalendar {t : Int} (h : InCalendar t) : 1 ≤ yearOfSecond t ∧ yearOfSecond t ≤ 9999 := by
  have first : yearBegins 1 = -62135596800 := rfl
  have last : yearBegins 10000 = 253402300800 := rfl
  have lo := le_yearOfSecond_iff (t := t) (y := 1)
  have hi := le_yearOfSecond_iff (t := t) (y := 10000)
  unfold InCalendar at h
  omega

/-! ## Seasons -/

/-- The instants of UTC at which daylight saving time starts and stops, by year. -/
structure Seasons where
  start : Int → Int
  stop : Int → Int

def Daylight.seasons (c : DayCount) (standard : Int) (d : Daylight) : Seasons where
  start y := d.start.reading c y - standard
  stop y := d.stop.reading c y - d.offset

namespace Seasons

/-- Daylight saving time is in force at the second `t`, if it is one of the year `y`. -/
def InForce (s : Seasons) (y t : Int) : Prop := Between (s.start y) (s.stop y) t

instance (s : Seasons) (y t : Int) : Decidable (s.InForce y t) := inferInstanceAs (Decidable (Between ..))

/-- In every year of the calendar start and stop come in the same order, at least `margin` away from
its ends and at least `gap` apart. -/
structure Regular (s : Seasons) (margin gap : Int) : Prop where
  order : (∀ y, 1 ≤ y → y ≤ 9999 → s.start y < s.stop y) ∨ ∀ y, 1 ≤ y → y ≤ 9999 → s.stop y ≤ s.start y
  startInside : ∀ y, 1 ≤ y → y ≤ 9999 →
    yearBegins y + margin ≤ s.start y ∧ s.start y + margin ≤ yearBegins (y + 1)
  stopInside : ∀ y, 1 ≤ y → y ≤ 9999 →
    yearBegins y + margin ≤ s.stop y ∧ s.stop y + margin ≤ yearBegins (y + 1)
  apart : ∀ y, 1 ≤ y → y ≤ 9999 → gap ≤ (s.start y - s.stop y).natAbs

variable {s : Seasons} {margin gap : Int}

/-- Around New Year nothing changes, so the old year and the new one say the same. -/
theorem inForce_succ (regular : s.Regular margin gap) {y t : Int} (lo : 1 ≤ y) (hi : y + 1 ≤ 9999)
    (after : yearBegins (y + 1) ≤ t + margin) (before : t < yearBegins (y + 1) + margin) :
    s.InForce y t ↔ s.InForce (y + 1) t := by
  have start := regular.startInside y lo (by omega)
  have stop := regular.stopInside y lo (by omega)
  have start' := regular.startInside (y + 1) (by omega) hi
  have stop' := regular.stopInside (y + 1) (by omega) hi
  unfold InForce Between
  rcases regular.order with order | order
  · have old := order y lo (by omega)
    have new := order (y + 1) (by omega) hi
    rw [if_pos old, if_pos new]; omega
  · have old := order y lo (by omega)
    have new := order (y + 1) (by omega) hi
    rw [if_neg (by omega), if_neg (by omega)]; omega

/-- Of a second that is near to two others, the years of both say the same. -/
theorem inForce_year (regular : s.Regular margin gap) (short : margin ≤ 15768000) {t w x : Int}
    (ht : InCalendar t) (hw : InCalendar w) (near : (x - t).natAbs ≤ margin) (near' : (x - w).natAbs ≤ margin) :
    s.InForce (yearOfSecond t) x ↔ s.InForce (yearOfSecond w) x := by
  have boundT := year_bounds_of_inCalendar ht
  have boundW := year_bounds_of_inCalendar hw
  have loT := yearBegins_yearOfSecond_le t; have hiT := lt_yearBegins_yearOfSecond_succ t
  have loW := yearBegins_yearOfSecond_le w; have hiW := lt_yearBegins_yearOfSecond_succ w
  rcases Int.lt_trichotomy (yearOfSecond t) (yearOfSecond w) with less | same | more
  · have next := yearOfSecond_eq_succ less (by omega)
    rw [next] at loW boundW ⊢
    exact inForce_succ regular boundT.1 boundW.2 (by omega) (by omega)
  · rw [same]
  · have next := yearOfSecond_eq_succ more (by omega)
    rw [next] at loT boundT ⊢
    exact (inForce_succ regular boundW.1 boundT.2 (by omega) (by omega)).symm

/-- The same where no year before a first one is asked. -/
theorem inForce_year_from (regular : s.Regular margin gap) (short : margin ≤ 15768000) (first : Int) {t w x : Int}
    (ht : InCalendar t) (hw : InCalendar w) (near : (x - t).natAbs ≤ margin) (near' : (x - w).natAbs ≤ margin) :
    s.InForce (max first (yearOfSecond t)) x ↔ s.InForce (max first (yearOfSecond w)) x := by
  -- neighbouring years are either both replaced by the first one or both asked themselves
  by_cases early : yearOfSecond t ≤ first ∧ yearOfSecond w ≤ first
  · rw [Int.max_eq_left early.1, Int.max_eq_left early.2]
  · have late : first ≤ yearOfSecond t ∧ first ≤ yearOfSecond w := by
      have next := fun less => yearOfSecond_eq_succ (t := t) (w := w) less (by omega)
      have next' := fun less => yearOfSecond_eq_succ (t := w) (w := t) less (by omega)
      omega
    rw [Int.max_eq_right late.1, Int.max_eq_right late.2]
    exact inForce_year regular short ht hw near near'

/-- If something changes between two seconds of a day, nothing else does in the day before. -/
theorem inForce_before (regular : s.Regular margin gap) (wide : 259200 ≤ gap) {y a b u : Int} (lo : 1 ≤ y)
    (hi : y ≤ 9999) (less : a < b) (close : b - a ≤ 86400) (changes : ¬ (s.InForce y a ↔ s.InForce y b))
    (left : a - 86400 ≤ u) (right : u ≤ a) : s.InForce y u ↔ s.InForce y a := by
  have apart := regular.apart y lo hi
  unfold InForce Between at *
  split at changes
  · rw [if_pos ‹_›, if_pos ‹_›]; omega
  · rw [if_neg ‹_›, if_neg ‹_›]; omega

/-- If something changes between two seconds of a day, nothing else does in the day after. -/
theorem inForce_after (regular : s.Regular margin gap) (wide : 259200 ≤ gap) {y a b u : Int} (lo : 1 ≤ y)
    (hi : y ≤ 9999) (less : a < b) (close : b - a ≤ 86400) (changes : ¬ (s.InForce y a ↔ s.InForce y b))
    (left : b ≤ u) (right : u ≤ b + 86400) : s.InForce y u ↔ s.InForce y b := by
  have apart := regular.apart y lo hi
  unfold InForce Between at *
  split at changes
  · rw [if_pos ‹_›, if_pos ‹_›]; omega
  · rw [if_neg ‹_›, if_neg ‹_›]; omega

theorem Regular.mono (regular : s.Regular margin gap) {margin' gap' : Int} (hm : margin' ≤ margin)
    (hg : gap' ≤ gap) : s.Regular margin' gap' where
  order := regular.order
  startInside y lo hi := by
    have := regular.startInside y lo hi; omega
  stopInside y lo hi := by
    have := regular.stopInside y lo hi; omega
  apart y lo hi := Int.le_trans hg (regular.apart y lo hi)

/-- Seasons that are close to regular ones are regular, with less to spare. -/
theorem Regular.of_near {s' : Seasons} (regular : s.Regular margin gap) {delta : Int} (room : 2 * delta < gap)
    (near : ∀ y, (s'.start y - s.start y).natAbs ≤ delta ∧ (s'.stop y - s.stop y).natAbs ≤ delta) :
    s'.Regular (margin - delta) (gap - 2 * delta) where
  order := by
    rcases regular.order with order | order
    · left
      intro y lo hi
      have := near y; have := order y lo hi; have := regular.apart y lo hi
      omega
    · right
      intro y lo hi
      have := near y; have := order y lo hi; have := regular.apart y lo hi
      omega
  startInside y lo hi := by
    have := near y; have := regular.startInside y lo hi; omega
  stopInside y lo hi := by
    have := near y; have := regular.stopInside y lo hi; omega
  apart y lo hi := by
    have := near y; have := regular.apart y lo hi; omega

/-- Seasons are regular if start and stop keep to two stretches of the year that are far enough from
New Year and from one another. -/
theorem regular_of_bounds (a b a' b' : Int)
    (start : ∀ y, yearBegins y + a ≤ s.start y ∧ s.start y ≤ yearBegins y + b)
    (stop : ∀ y, yearBegins y + a' ≤ s.stop y ∧ s.stop y ≤ yearBegins y + b')
    (left : margin ≤ a ∧ margin ≤ a') (right : b + margin ≤ 31536000 ∧ b' + margin ≤ 31536000)
    (apart : b < a' ∧ b + gap ≤ a' ∨ b' ≤ a ∧ b' + gap ≤ a) : s.Regular margin gap where
  order := by
    rcases apart with apart | apart
    · left
      intro y _ _
      have := start y; have := stop y; omega
    · right
      intro y _ _
      have := start y; have := stop y; omega
  startInside y _ _ := by
    have := start y; have := yearBegins_succ y; omega
  stopInside y _ _ := by
    have := stop y; have := yearBegins_succ y; omega
  apart y _ _ := by
    have := start y; have := stop y; omega

end Seasons

/-! ## The offsets of a rule -/

namespace ZoneRule

/-- How far the clock is put forward for daylight saving time. It is put back if this is negative. -/
def gain (r : ZoneRule) (d : Daylight) : Int := d.offset - r.offset

structure BelowDay (r : ZoneRule) : Prop where
  standard : r.standardType.BelowDay
  daylight : ∀ d, r.daylight = some d → d.type.BelowDay

theorem BelowDay.standard_natAbs {r : ZoneRule} (below : r.BelowDay) : r.offset.natAbs < 86400 := by
  have standard := below.standard
  change -86400 < r.offset ∧ r.offset < 86400 at standard
  omega

theorem BelowDay.daylight_natAbs {r : ZoneRule} {d : Daylight} (below : r.BelowDay) (hd : r.daylight = some d) :
    d.offset.natAbs < 86400 := by
  have daylight := below.daylight d hd
  change -86400 < d.offset ∧ d.offset < 86400 at daylight
  omega

end ZoneRule

end CivilTime
