/-
  CivilTime.Proofs.Region.InForce — a region at a moment of UTC.

  Asked about a moment of UTC, a region does not answer with the local time that it has looked up. It looks
  up a reading and a fold, and answers with the local time of these. In regular records this leads
  back to where it came from, so the answer depends on the local time in force only
  (`offsetOfUtc_of_inForce`): if its reading leaves the calendar there is no such moment there, and otherwise the
  answer is its offset, if it is one.

  Main statement: `showsInForce_of_isRegular`. It does not need offsets to be less than a day. A rule may have
  others, and then no moment can be made while one of them is in force. But it does need the two offsets
  of a rule to be at most two days apart, for this is how far from New Year the changes of regular seasons
  keep, and readings may be repeated for as long as the offsets are apart (`not_showsInForce`).
-/

import CivilTime.Proofs.Coherence

namespace CivilTime

open CivilDateTime (InCalendar)
open ZoneRule (regionCount)

/-! ## Regular records -/

namespace RegionData

variable {d : RegionData}

/-- The local time in force by a list of changes, or by a rule where there are no changes. -/
def inForce (d : RegionData) : Timeline := if d.size = 0 then d.after.inForce else d.recorded

theorem clock_alike_inForce (regular : d.IsRegular) (t : Int) : (d.clock t).Alike (d.inForce t) := by
  unfold inForce
  rcases regular with table | ⟨empty, -⟩
  · have some : d.size ≠ 0 := by have := table.nonempty; omega
    rw [if_neg some]
    exact table.clock_alike_recorded t
  · rw [if_pos empty, clock_of_empty empty]
    exact .refl _

theorem reread_of_isRegular (regular : d.IsRegular) (within : d.size = 0 → d.after.WithinTwoDays) {t : Int}
    (ht : InCalendar t) (hw : InCalendar (t + (d.clock t).offset)) :
    (d.ofLocal (t + (d.clock t).offset) (d.ofUtc t).2).Alike (d.clock t) := by
  rcases regular with table | ⟨empty, rule⟩
  · exact table.reread t
  · exact reread_of_rule empty rule (within empty) ht hw

end RegionData

/-! ## Moments of UTC -/

/-- What becomes of a moment of UTC in a region with a kind of local time in force. If its reading is in the
calendar the moment has the offset, the name and the key, and the reading for its local form; but if the
offset is a day or more it is refused as too large. Without such a reading there is no such moment. -/
structure ShowsInForce (w : World) (r : Region) (x : CivilDateTime) (t : LocalType) : Prop where
  shown : InCalendar (x.timestamp + t.offset) → t.BelowDay → ∃ s l, s.IsRegion r.key t ∧
    ((Zone.region r).stateOfUtc w x).result = .ok s ∧ ((Zone.region r).momentOfUtc w x).result = .ok ⟨x, s⟩ ∧
    ZonedDateTime.localForm ⟨x, s⟩ = .ok l ∧ l.timestamp = x.timestamp + t.offset
  tooLarge : InCalendar (x.timestamp + t.offset) → ¬ t.BelowDay →
    ((Zone.region r).stateOfUtc w x).result = .error .offsetTooLarge ∧
      ((Zone.region r).momentOfUtc w x).result = .error .offsetTooLarge
  outside : ¬ InCalendar (x.timestamp + t.offset) →
    ((Zone.region r).stateOfUtc w x).result = .error (.failure .invalidDateTime) ∧
      ((Zone.region r).momentOfUtc w x).result = .error (.failure .invalidDateTime)

section

variable {w : World} {r : Region} {x : CivilDateTime}

theorem momentOfUtc_of_error {f : Fault} (h : (r.offsetOfUtc x).result = .error f) :
    ((Zone.region r).stateOfUtc w x).result = .error f ∧ ((Zone.region r).momentOfUtc w x).result = .error f := by
  have state : ((Zone.region r).stateOfUtc w x).result = .error f := by
    show (r.offsetOfUtc x >>= _).result = _
    rw [Traced.bind_of_error h]
  refine ⟨state, ?_⟩
  unfold Zone.momentOfUtc
  rw [Traced.bind_of_error state]

/-- The answer about a local time is all that matters. -/
theorem showsInForce_of_offsetOfUtc {t : LocalType} (h : (r.offsetOfUtc x).result =
    if InCalendar (x.timestamp + t.offset) then r.offsetOf t else .error (.failure .invalidDateTime)) :
    ShowsInForce w r x t where
  shown inside below := by
    obtain ⟨o, ho⟩ := Region.exists_offsetOf r below
    rw [if_pos inside, ho] at h
    have state : ((Zone.region r).stateOfUtc w x).result = .ok (.region o) := Traced.result_bind_of_ok h
    have seconds : o.offset.seconds = t.offset := (Region.offsetOf_eq_ok.mp ho).1
    rw [← seconds] at inside
    obtain ⟨l, reads⟩ := ZonedDateTime.exists_reads (m := ⟨x, .region o⟩) inside
    have at_ : x.timestamp + o.offset.seconds = l.timestamp := reads.seconds
    rw [seconds] at at_
    exact ⟨.region o, l, Region.isRegion_of_offsetOf ho, state, Zone.momentOfUtc_eq_ok.mpr ⟨rfl, state⟩,
      ZonedDateTime.localForm_eq_ok.mpr reads, at_.symm⟩
  tooLarge inside above := by
    rw [if_pos inside, Region.offsetOf_of_not_belowDay r above] at h
    exact momentOfUtc_of_error h
  outside beyond := by
    rw [if_neg beyond] at h
    exact momentOfUtc_of_error h

end

/-- A region with regular records shows a moment of UTC by the local time in force, whatever offsets there are in a
list, and if those of a rule are at most two days and no more than that apart. -/
theorem showsInForce_of_isRegular (w : World) (r : Region) (x : CivilDateTime) (regular : r.data.IsRegular)
    (within : r.data.size = 0 → r.data.after.WithinTwoDays) :
    ShowsInForce w r x (r.data.inForce x.timestamp) := by
  have alike := RegionData.clock_alike_inForce regular x.timestamp
  have reread := RegionData.reread_of_isRegular regular within x.inCalendar_timestamp
  exact showsInForce_of_offsetOfUtc (Region.offsetOfUtc_of_inForce alike reread)

/-- Half past one in Ireland, in the first hour of winter. -/
theorem showsInForce_irishAutumn :
    ireland.data.IsRegular ∧ (ireland.data.size = 0 → ireland.data.after.WithinTwoDays) ∧
      InCalendar (irishAutumn.timestamp + (ireland.data.inForce irishAutumn.timestamp).offset) ∧
      (ireland.data.inForce irishAutumn.timestamp).BelowDay ∧
      ShowsInForce ⟨irishRule, [], .constant none none none none⟩ ireland irishAutumn
        (ireland.data.inForce irishAutumn.timestamp) := by
  have regular : ireland.data.IsRegular := .inr ⟨rfl, isRegular_irishRule⟩
  have within : ireland.data.size = 0 → ireland.data.after.WithinTwoDays := by
    intro _
    exact belowDay_irishRule.withinTwoDays
  have winter : ireland.data.inForce irishAutumn.timestamp = ⟨0, true, "GMT"⟩ := rfl
  refine ⟨regular, within, ?_, ?_, showsInForce_of_isRegular _ ireland irishAutumn regular within⟩
  · rw [winter]
    decide
  · rw [winter]
    decide

/-! ## Large offsets -/

def dayBehindSummer : Daylight :=
  ⟨"BBB", -82800, ⟨.weekdayOfMonth 3 5 0, 7200⟩, ⟨.weekdayOfMonth 10 5 0, 7200⟩⟩

/-- A region that is a whole day behind UTC in winter. -/
def dayBehind : Region where
  key := "Day/Behind"
  data := ⟨⟨0, false, "AAA"⟩, ⟨0, false, "AAA"⟩, #[], ⟨"AAA", -86400, some dayBehindSummer⟩⟩

def farApartSummer : Daylight := ⟨"BBB", 89999, ⟨.weekdayOfMonth 3 5 0, 7200⟩, ⟨.withoutLeapDay 365, 1800⟩⟩

/-- A region whose clock is put forward by more than two days for the summer. -/
def farApart : Region where
  key := "Far/Apart"
  data := ⟨⟨0, false, "AAA"⟩, ⟨0, false, "AAA"⟩, #[], ⟨"AAA", -86399, some farApartSummer⟩⟩

theorem isRegular_dayBehind : dayBehind.data.after.IsRegular := by
  intro d hd
  cases hd
  refine Seasons.regular_of_bounds (80 * 86400) (100 * 86400) (290 * 86400) (310 * 86400) (fun y => ?_)
    (fun y => ?_) (by decide) (by decide) (.inl (by decide))
  · have := RuleDate.reading_last regionCount y 0 7200 (m := 3) (by decide) (by decide)
    simp only [ZoneRule.seasons, Daylight.seasons, dayBehindSummer, dayBehind]
    omega
  · have := RuleDate.reading_last regionCount y 0 7200 (m := 10) (by decide) (by decide)
    simp only [ZoneRule.seasons, Daylight.seasons, dayBehindSummer]
    omega

theorem ordinal_lastDay (y : Int) : (RuleDay.withoutLeapDay 365).ordinal regionCount y = Calendar.yearLength y := by
  unfold RuleDay.ordinal Calendar.yearLength
  by_cases leap : Calendar.IsLeap y <;> simp [leap, regionCount]

/-- In UTC this summer ends half an hour, less a second, before the last two days of the year begin. -/
theorem stop_farApart (y : Int) :
    (farApart.data.after.seasons farApartSummer).stop y = yearBegins (y + 1) - 174599 := by
  simp only [ZoneRule.seasons, Daylight.seasons, farApartSummer, RuleDate.reading, ordinal_lastDay, yearBegins,
    Calendar.daysBeforeYear_succ]
  omega

theorem isRegular_farApart : farApart.data.after.IsRegular := by
  intro d hd
  cases hd
  have start (y : Int) : yearBegins y + 80 * 86400 ≤ (farApart.data.after.seasons farApartSummer).start y ∧
      (farApart.data.after.seasons farApartSummer).start y ≤ yearBegins y + 100 * 86400 := by
    have := RuleDate.reading_last regionCount y 0 7200 (m := 3) (by decide) (by decide)
    simp only [ZoneRule.seasons, Daylight.seasons, farApartSummer, farApart]
    omega
  have gain : (farApart.data.after.gain farApartSummer).natAbs = 176398 := rfl
  constructor
  · left
    intro y _ _
    have := start y; have := stop_farApart y; have := yearBegins_succ y
    omega
  · intro y _ _
    have := start y; have := yearBegins_succ y
    omega
  · intro y _ _
    have := stop_farApart y; have := yearBegins_succ y
    omega
  · intro y _ _
    have := start y; have := stop_farApart y; have := yearBegins_succ y
    rw [gain]
    omega

def largeOffsetsWorld : World :=
  ⟨.fixed "UTC" 0, [(dayBehind.key, dayBehind.data), (farApart.key, farApart.data)], .constant none none none none⟩

/-- An evening in UTC, 2023-01-15 18:00:00. -/
def midJanuary : CivilDateTime where
  date := ⟨738535, by decide, by decide⟩
  time := { ClockTime.midnight with secondOfDay := 64800, second_nonneg := by decide, second_lt := by decide }

/-- Midnight in UTC of 2023-01-01. -/
def newYear2023 : CivilDateTime := .startOf ⟨738521, by decide, by decide⟩

/-- The one region has a reading on that evening, but what it is behind UTC then is no offset. The other region has
an offset on New Year's Day, and a reading on the last day of the old year; but in that year the readings
before the clock was put back are shown until now, and the answer would be what they had at first. -/
theorem not_showsInForce :
    dayBehind.data.IsRegular ∧ dayBehind.data.inForce midJanuary.timestamp = ⟨-86400, false, "AAA"⟩ ∧
      InCalendar (midJanuary.timestamp + -86400) ∧
      ((Zone.region dayBehind).momentOfUtc largeOffsetsWorld midJanuary).result = .error .offsetTooLarge ∧
    farApart.data.IsRegular ∧ farApart.data.inForce newYear2023.timestamp = ⟨-86399, false, "AAA"⟩ ∧
      InCalendar (newYear2023.timestamp + -86399) ∧
      ((Zone.region farApart).momentOfUtc largeOffsetsWorld newYear2023).result = .error .offsetTooLarge :=
  ⟨.inr ⟨rfl, isRegular_dayBehind⟩, rfl, by decide, rfl, .inr ⟨rfl, isRegular_farApart⟩, rfl, by decide, rfl⟩

end CivilTime
