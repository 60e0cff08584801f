/-
  CivilTime.Proofs.Region.Listed — regular lists of changes, whether or not there are any.

  A region may have a list of kinds of local time and never change from one to another. Then the last
  kind on the list holds for ever, and the records are a rule without daylight saving time; otherwise they are
  a table. Either way they are regular (`IsListed.isRegular`), so that they are faithful
  (`IsListed.faithful`), and no offset of a day or more is found in them (`IsListed.findsBelowDay`).

  A reading is shown at some second unless a change that puts the clock forward skips it
  (`IsListed.shown_iff`).
-/

import CivilTime.Proofs.Coherence
import CivilTime.Proofs.Region.Bounds

namespace CivilTime

namespace RegionData

/-- Kinds of local time in a list, with offsets of less than a day, and changes from one to another, one
after the other or none at all, with nothing said of the time after. -/
structure IsListed (d : RegionData) : Prop where
  listed : ∃ types changes, ofTable? types changes none = some d ∧ ∀ t ∈ types, t.BelowDay
  standardFirst : d.first.isDaylight = false
  ascending : ∀ i, i + 1 < d.size → d.instant i < d.instant (i + 1)
  apart : ∀ i, i + 1 < d.size → d.windowEnd i ≤ d.windowStart (i + 1)

variable {d : RegionData}

namespace IsListed

variable (h : d.IsListed)

include h

theorem isTable (some : 0 < d.size) : d.IsTable where
  listed := by
    obtain ⟨types, changes, listed, -⟩ := h.listed
    exact ⟨types, changes, listed⟩
  nonempty := some
  standardFirst := h.standardFirst
  ascending := h.ascending
  apart := h.apart

theorem belowDay : d.BelowDay := by
  obtain ⟨types, changes, listed, below⟩ := h.listed
  exact belowDay_of_ofTable? listed below fun r hr => by cases hr

/-- The rule that a list ends in has no daylight saving time. -/
theorem daylight_after : d.after.daylight = none := by
  obtain ⟨types, changes, listed, -⟩ := h.listed
  obtain ⟨-, -, -, t, -, after⟩ := mem_of_ofTable? listed
  rw [after]
  rfl

theorem after_isRegular : d.after.IsRegular := by
  intro daylight some
  rw [h.daylight_after] at some
  cases some

theorem isRegular : d.IsRegular := by
  by_cases empty : d.size = 0
  · exact .inr ⟨empty, h.after_isRegular⟩
  · exact .inl (h.isTable (by omega))

theorem faithful : d.Faithful := by
  rcases h.isRegular with table | ⟨empty, regular⟩
  · exact table.faithful
  · exact faithful_of_rule empty regular h.belowDay.after

theorem findsBelowDay : d.FindsBelowDay := h.belowDay.findsBelowDay

end IsListed

/-! ## Skipped readings -/

def Skips (d : RegionData) (w : Int) : Prop :=
  ∃ i, i < d.size ∧ d.offsetBefore i < (d.type i).offset ∧ d.windowStart i ≤ w ∧ w < d.windowEnd i

section Table

variable (table : d.IsTable)

include table

theorem shows_segment {w : Int} {k : Nat} (le : k ≤ d.size)
    (last : 0 < k → d.instant (k - 1) + (d.segment k).offset ≤ w)
    (next : k < d.size → w < d.instant k + (d.segment k).offset) : d.clock.Shows w (w - (d.segment k).offset) := by
  have alike := cut_instant table (t := w - (d.segment k).offset) le
    (fun pos => by have := last pos; omega) (fun less => by have := next less; omega)
  unfold Timeline.Shows
  rw [alike.1]
  omega

/-- A skipped reading comes after the segment before the change has ended, and before the next one begins. -/
theorem not_shown_of_skips {w t : Int} (skips : d.Skips w) : ¬ d.clock.Shows w t := by
  intro shows
  obtain ⟨i, hi, gap, begun, notEnded⟩ := skips
  have ends := cut_upperBound (table.ascends_reading .first) w
  have starts := cut_upperBound (table.ascends_reading .second) w
  generalize upperBound (d.reading .first) w 0 d.size = k at ends
  generalize upperBound (d.reading .second) w 0 d.size = l at starts
  have neighbours := cuts_neighbour table ends starts
  have notBefore : k ≤ i := by
    by_cases h : i < k
    · have : d.windowEnd i ≤ w := ends.below i h
      omega
    · omega
  have notAfter : i < l := by
    by_cases h : l ≤ i
    · have : w < d.windowStart i := starts.above i h hi
      omega
    · omega
  -- no other change has its window there
  obtain rfl : i = k := by omega
  rw [offsetBefore_eq, ← segment_succ] at gap
  rw [windowStart_eq] at begun
  rw [windowEnd_eq] at notEnded
  obtain ⟨j, hj, cut, at_⟩ := segment_of_shows table ends starts shows
  rcases (show j = i ∨ j = i + 1 by omega) with rfl | rfl
  · have := cut.next hi
    omega
  · have := cut.below i (by omega)
    omega

/-- A reading that no change skips is shown in the segment after the last window that has ended. -/
theorem shown_of_not_skips {w : Int} (kept : ¬ d.Skips w) : ∃ t, d.clock.Shows w t := by
  have ends := cut_upperBound (table.ascends_reading .first) w
  generalize upperBound (d.reading .first) w 0 d.size = k at ends
  refine ⟨_, shows_segment table ends.le (fun pos => ?_) fun less => ?_⟩
  · have := ends.last pos
    rw [reading_first, show k - 1 + 1 = k by omega] at this
    omega
  · have notEnded : w < d.windowEnd k := ends.next less
    by_cases begun : d.windowStart k ≤ w
    · have noGap : ¬ d.offsetBefore k < (d.type k).offset := fun gap => kept ⟨k, less, gap, begun, notEnded⟩
      rw [offsetBefore_eq, ← segment_succ] at noGap
      rw [windowEnd_eq] at notEnded
      omega
    · rw [windowStart_eq] at begun
      omega

end Table

/-- A reading is shown unless a change skips it. -/
theorem IsListed.shown_iff (h : d.IsListed) (w : Int) : (∃ t, d.clock.Shows w t) ↔ ¬ d.Skips w := by
  by_cases empty : d.size = 0
  · have shows : d.clock.Shows w (w - d.after.standardType.offset) := by
      rw [clock_of_empty empty]
      unfold Timeline.Shows
      rw [ZoneRule.inForce_of_none h.daylight_after]
      omega
    have kept : ¬ d.Skips w := by
      rintro ⟨i, hi, -⟩
      omega
    exact ⟨fun _ => kept, fun _ => ⟨_, shows⟩⟩
  · have table := h.isTable (by omega)
    constructor
    · rintro ⟨t, shows⟩ skips
      exact not_shown_of_skips table skips shows
    · exact shown_of_not_skips table

end RegionData

theorem isListed_summer2023 : summer2023.data.IsListed where
  listed := ⟨[⟨3600, false, "CET"⟩, ⟨7200, true, "CEST"⟩], [(1679792400, 1), (1698541200, 0)], rfl, by decide⟩
  standardFirst := isTable_summer2023.standardFirst
  ascending := isTable_summer2023.ascending
  apart := isTable_summer2023.apart

end CivilTime
