/-
  CivilTime.Proofs.Region.Season — regions whose clocks follow a yearly rule.

  The lookup from UTC asks the year that a second falls into in UTC, the lookup by a reading asks the
  year on the clock; of regular seasons (`ZoneRule.IsRegular`) both years say the same.

  Within a year, let a reading `w` be tried as daylight saving and as standard time. It is shown at
  the first trial second if that one is in season, and at the second if that one is not; the two
  folds of the lookup test just these two seconds, the earlier one first (`ofLocal_eq`). So
  the answers need no look at the distance of start and stop (`sighting`). The way back from UTC
  does, since the fold is found by that distance (`inForce_trial_iff`). Main statement: a reading
  resolves to its inverse image under the rule (`resolve_rule_inverseImage`).
-/

import CivilTime.Proofs.Region.Faithful
import CivilTime.Proofs.Seasons

namespace CivilTime

open CivilDateTime (InCalendar)
open ZoneRule (Between regionCount)

theorem between_shift {a b k t : Int} : Between (a + k) (b + k) t ↔ Between a b (t - k) := by
  unfold Between
  split <;> split <;> omega

/-! ## Rules -/

namespace ZoneRule

abbrev seasons (r : ZoneRule) (d : Daylight) : Seasons := d.seasons regionCount r.offset

def inForce (r : ZoneRule) : Timeline := fun t =>
  match r.daylight with
  | none => r.standardType
  | some d => if (r.seasons d).InForce (yearOfSecond t) t then d.type else r.standardType

/-- The offset at which the lookup by a reading tries it: the larger one first. -/
def trial (r : ZoneRule) (d : Daylight) : Fold → Int
  | .first => max r.offset d.offset
  | .second => min r.offset d.offset

theorem trial_of_le {r : ZoneRule} {d : Daylight} (h : r.offset ≤ d.offset) :
    r.trial d .first = d.offset ∧ r.trial d .second = r.offset := ⟨Int.max_eq_right h, Int.min_eq_left h⟩

theorem trial_of_ge {r : ZoneRule} {d : Daylight} (h : d.offset ≤ r.offset) :
    r.trial d .first = r.offset ∧ r.trial d .second = d.offset := ⟨Int.max_eq_left h, Int.min_eq_right h⟩

theorem inForce_of_some {r : ZoneRule} {d : Daylight} (hd : r.daylight = some d) (t : Int) :
    r.inForce t =
      if (r.seasons d).InForce (yearOfSecond t) t then d.type else r.standardType := by
  unfold inForce; rw [hd]

theorem inForce_of_none {r : ZoneRule} (h : r.daylight = none) (t : Int) : r.inForce t = r.standardType := by
  unfold inForce; rw [h]

theorem offset_inForce (r : ZoneRule) (t : Int) :
    (r.inForce t).offset = r.offset ∨ ∃ d, r.daylight = some d ∧ (r.inForce t).offset = d.offset := by
  cases hd : r.daylight with
  | none => rw [inForce_of_none hd]; exact .inl rfl
  | some d =>
    rw [inForce_of_some hd]
    split
    · exact .inr ⟨d, rfl, rfl⟩
    · exact .inl rfl

theorem ofUtc_eq_inForce (r : ZoneRule) (t : Int) : (r.ofUtc t).1 = r.inForce t := by
  unfold ofUtc
  split
  · rename_i h; rw [inForce_of_none h]
  · rename_i d h; rw [inForce_of_some h]; rfl

/-- The lookup by a reading asks whether its trial second is in season, in the year on the clock. -/
theorem ofLocal_eq {r : ZoneRule} {d : Daylight} (hd : r.daylight = some d) (w : Int) (f : Fold) :
    r.ofLocal w f =
      if (r.seasons d).InForce (yearOfSecond w) (w - r.trial d f) then d.type
      else r.standardType := by
  unfold ofLocal
  rw [hd]
  dsimp only
  congr 1
  have first : Between (d.start.reading regionCount (yearOfSecond w) + (d.offset - r.offset))
      (d.stop.reading regionCount (yearOfSecond w)) w ↔
      (r.seasons d).InForce (yearOfSecond w) (w - d.offset) := by
    rw [Seasons.InForce, ← between_shift]
    simp only [Daylight.seasons]
    rw [show ∀ a, a - r.offset + d.offset = a + (d.offset - r.offset) by omega, Int.sub_add_cancel]
  have second : Between (d.start.reading regionCount (yearOfSecond w))
      (d.stop.reading regionCount (yearOfSecond w) - (d.offset - r.offset)) w ↔
      (r.seasons d).InForce (yearOfSecond w) (w - r.offset) := by
    rw [Seasons.InForce, ← between_shift]
    simp only [Daylight.seasons]
    rw [show ∀ a, a - d.offset + r.offset = a - (d.offset - r.offset) by omega, Int.sub_add_cancel]
  rw [first, second]
  by_cases ahead : r.offset ≤ d.offset
  · obtain ⟨early, late⟩ := trial_of_le ahead
    cases f
    · simp [ahead, early]
    · simp [ahead, late]
  · obtain ⟨early, late⟩ := trial_of_ge (show d.offset ≤ r.offset by omega)
    cases f
    · simp [ahead, early]
    · simp [ahead, late]

theorem ofLocal_of_trial {r : ZoneRule} {d : Daylight} (hd : r.daylight = some d) {w o : Int} {f : Fold}
    (h : r.trial d f = o) : r.ofLocal w f =
      if (r.seasons d).InForce (yearOfSecond w) (w - o) then d.type else r.standardType := by
  subst h
  exact ofLocal_eq hd w f

/-- The readings before the change that puts the clock back are shown again after it. -/
theorem fold_of_some {r : ZoneRule} {d : Daylight} (hd : r.daylight = some d) (t : Int) :
    (r.ofUtc t).2 =
      if (if 0 < r.gain d then
            (r.seasons d).stop (yearOfSecond t) ≤ t ∧
              t < (r.seasons d).stop (yearOfSecond t) + r.gain d
          else
            (r.seasons d).start (yearOfSecond t) ≤ t ∧
              t < (r.seasons d).start (yearOfSecond t) - r.gain d)
      then .second else .first := by
  unfold ofUtc; rw [hd]; rfl

/-- The seasons of a rule are regular for a margin of two days, and start and stop are at least the
change of the offset apart. -/
def IsRegular (r : ZoneRule) : Prop :=
  ∀ d, r.daylight = some d → (r.seasons d).Regular 172800 (r.gain d).natAbs

def WithinTwoDays (r : ZoneRule) : Prop :=
  ∀ d, r.daylight = some d → r.offset.natAbs ≤ 172800 ∧ d.offset.natAbs ≤ 172800 ∧ (r.gain d).natAbs ≤ 172800

theorem BelowDay.withinTwoDays {r : ZoneRule} (below : r.BelowDay) : r.WithinTwoDays := by
  intro d hd
  have standard := below.standard_natAbs
  have daylight := below.daylight_natAbs hd
  unfold gain
  omega

/-- A reading is tried at two offsets, the larger one first, and one guess stands for both when its
trial fails. If both trials succeed the reading is shown twice, if both fail it is skipped. -/
theorem sighting_of_trials {c : Timeline} {w : Int} {a b : LocalType} {A B : Prop} [Decidable A] [Decidable B]
    (less : b.offset < a.offset)
    (only : ∀ t, InCalendar t → c.Shows w t → (t = w - a.offset ∧ A) ∨ (t = w - b.offset ∧ B))
    (first : A → c.Confirms w a) (second : B → c.Confirms w b) :
    Sighting c w (if A then a else b) (if B then b else a) := by
  by_cases hA : A <;> by_cases hB : B
  · rw [if_pos hA, if_pos hB]
    refine .twice less (fun t ht h => ?_) (first hA) (second hB)
    exact (only t ht h).imp And.left And.left
  · rw [if_pos hA, if_neg hB]
    refine .once (.refl _) (fun t ht h => ?_) (first hA)
    exact (only t ht h).elim And.left fun other => absurd other.2 hB
  · rw [if_neg hA, if_pos hB]
    refine .once (.refl _) (fun t ht h => ?_) (second hB)
    exact (only t ht h).elim (fun other => absurd other.2 hA) And.left
  · refine .never fun t ht h => ?_
    exact (only t ht h).elim (fun other => hA other.2) fun other => hB other.2

section Lookups

variable {r : ZoneRule} {d : Daylight} (hd : r.daylight = some d) (regular : r.IsRegular) (below : r.BelowDay)

include hd regular below

/-- Whether a second is in season can be asked of the year of any reading that it may have. -/
theorem inForce_of_near {t w : Int} (ht : InCalendar t) (hw : InCalendar w)
    (near : w - t = r.offset ∨ w - t = d.offset) :
    r.inForce t =
      if (r.seasons d).InForce (yearOfSecond w) t then d.type else r.standardType := by
  have standard := below.standard_natAbs
  have daylight := below.daylight_natAbs hd
  rw [inForce_of_some hd]
  simp only [Seasons.inForce_year (regular d hd) (by decide) ht hw (x := t) (by omega) (by omega)]

/-- A second that shows a reading is the trial second of the local time in force. -/
theorem trial_of_shows {t w : Int} (ht : InCalendar t) (hw : InCalendar w) (shows : r.inForce.Shows w t) :
    (t = w - d.offset ∧ (r.seasons d).InForce (yearOfSecond w) (w - d.offset)) ∨
      (t = w - r.offset ∧ ¬ (r.seasons d).InForce (yearOfSecond w) (w - r.offset)) := by
  unfold Timeline.Shows at shows
  have near : w - t = r.offset ∨ w - t = d.offset := by
    rw [inForce_of_some hd] at shows
    split at shows
    · right; change t + d.offset = w at shows; omega
    · left; change t + r.offset = w at shows; omega
  rw [inForce_of_near hd regular below ht hw near] at shows
  split at shows
  · left
    have at_ : t = w - d.offset := by change t + d.offset = w at shows; omega
    subst at_
    exact ⟨rfl, ‹_›⟩
  · right
    have at_ : t = w - r.offset := by change t + r.offset = w at shows; omega
    subst at_
    exact ⟨rfl, ‹_›⟩

theorem confirms_daylight {w : Int} (hw : InCalendar w)
    (inSeason : (r.seasons d).InForce (yearOfSecond w) (w - d.offset)) :
    r.inForce.Confirms w d.type := by
  intro ht
  change InCalendar (w - d.offset) at ht
  show (r.inForce (w - d.offset)).Alike d.type
  rw [inForce_of_near hd regular below ht hw (by omega), if_pos inSeason]
  exact .refl _

theorem confirms_standard {w : Int} (hw : InCalendar w)
    (outOfSeason : ¬ (r.seasons d).InForce (yearOfSecond w) (w - r.offset)) :
    r.inForce.Confirms w r.standardType := by
  intro ht
  change InCalendar (w - r.offset) at ht
  show (r.inForce (w - r.offset)).Alike r.standardType
  rw [inForce_of_near hd regular below ht hw (by omega), if_neg outOfSeason]
  exact .refl _

/-- Both guesses at a reading of a rule are worth what they should be. -/
theorem sighting_of_some {w : Int} (hw : InCalendar w) :
    Sighting r.inForce w (r.ofLocal w .first) (r.ofLocal w .second) := by
  have only := fun t ht (h : r.inForce.Shows w t) => trial_of_shows hd regular below (t := t) ht hw h
  have daylight := confirms_daylight hd regular below hw
  have standard := confirms_standard hd regular below hw
  have inDaylight (f : Fold) (h : r.trial d f = d.offset) := ofLocal_of_trial hd (w := w) h
  have inStandard (f : Fold) (h : r.trial d f = r.offset) := ofLocal_of_trial hd (w := w) h
  have asStandard := ite_not ((r.seasons d).InForce (yearOfSecond w) (w - r.offset))
    r.standardType d.type
  -- the larger offset is tried first, which is that of daylight saving time or the standard one
  rcases Int.lt_trichotomy r.offset d.offset with ahead | same | behind
  · obtain ⟨early, late⟩ := trial_of_le (Int.le_of_lt ahead)
    rw [inDaylight .first early, inStandard .second late, ← asStandard]
    exact sighting_of_trials (show r.standardType.offset < d.type.offset from ahead) only daylight standard
  · obtain ⟨early, -⟩ := trial_of_le (Int.le_of_eq same)
    obtain ⟨-, late⟩ := trial_of_ge (Int.le_of_eq same.symm)
    rw [inDaylight .first early, inDaylight .second late]
    have at_ : ∀ t, InCalendar t → r.inForce.Shows w t → t = w - d.offset := by
      intro t ht h
      have := only t ht h
      omega
    split
    · exact .once (.refl _) at_ (daylight ‹_›)
    · rename_i outOfSeason
      rw [← same] at at_ outOfSeason
      exact .once (.refl _) at_ (standard outOfSeason)
  · obtain ⟨early, late⟩ := trial_of_ge (Int.le_of_lt behind)
    rw [inStandard .first early, inDaylight .second late, ← asStandard]
    exact sighting_of_trials (show d.type.offset < r.standardType.offset from behind)
      (fun t ht h => (only t ht h).symm) standard daylight

end Lookups

section Reread

variable {r : ZoneRule} {d : Daylight} (hd : r.daylight = some d) (regular : r.IsRegular)

include hd regular

/-- The trial of a second's reading for its fold is the second itself, or another one with no change
between the two. -/
theorem inForce_trial_iff {t o : Int} (ht : InCalendar t)
    (own : ((r.seasons d).InForce (yearOfSecond t) t ∧ o = d.offset) ∨
      (¬ (r.seasons d).InForce (yearOfSecond t) t ∧ o = r.offset)) :
    (r.seasons d).InForce (yearOfSecond t) (t + o - r.trial d (r.ofUtc t).2) ↔
      (r.seasons d).InForce (yearOfSecond t) t := by
  obtain ⟨lo, hi⟩ := year_bounds_of_inCalendar ht
  have apart := (regular d hd).apart _ lo hi
  rw [fold_of_some hd]
  generalize r.seasons d = s at *
  generalize yearOfSecond t = y at *
  unfold gain at *
  unfold Seasons.InForce Between at *
  -- four cases: the order of start and stop, and whether the clock is put forward or back for the season
  by_cases order : s.start y < s.stop y <;> simp only [order, if_true, if_false] at own ⊢
  · by_cases ahead : 0 < d.offset - r.offset <;> simp only [ahead, if_true, if_false]
    · split <;> simp only [trial] <;> omega
    · split <;> simp only [trial] <;> omega
  · by_cases ahead : 0 < d.offset - r.offset <;> simp only [ahead, if_true, if_false]
    · split <;> simp only [trial] <;> omega
    · split <;> simp only [trial] <;> omega

/-- The reading of a second leads back to the local time in force there. -/
theorem reread_of_some (within : r.WithinTwoDays) {t : Int} (ht : InCalendar t)
    (hw : InCalendar (t + (r.inForce t).offset)) : r.ofLocal (t + (r.inForce t).offset) (r.ofUtc t).2 = r.inForce t := by
  obtain ⟨standard, daylight, gain⟩ := within d hd
  unfold ZoneRule.gain at gain
  -- near New Year the second and its reading are of different years, which say the same
  have year (o : Int) (own : o = d.offset ∨ o = r.offset) (hw : InCalendar (t + o)) :
      (r.seasons d).InForce (yearOfSecond t) (t + o - r.trial d (r.ofUtc t).2) ↔
        (r.seasons d).InForce (yearOfSecond (t + o)) (t + o - r.trial d (r.ofUtc t).2) := by
    have tried : r.trial d (r.ofUtc t).2 = r.offset ∨ r.trial d (r.ofUtc t).2 = d.offset := by
      cases (r.ofUtc t).2 <;> simp only [trial] <;> omega
    exact Seasons.inForce_year (regular d hd) (by decide) ht hw (by omega) (by omega)
  rw [ofLocal_eq hd]
  rw [inForce_of_some hd] at hw ⊢
  split at hw
  · rename_i inSeason
    change InCalendar (t + d.offset) at hw
    rw [if_pos inSeason, if_pos]
    refine (year d.offset (.inl rfl) hw).mp ?_
    exact (inForce_trial_iff hd regular ht (.inl ⟨inSeason, rfl⟩)).mpr inSeason
  · rename_i outOfSeason
    change InCalendar (t + r.offset) at hw
    rw [if_neg outOfSeason, if_neg]
    intro inSeason
    apply outOfSeason
    refine (inForce_trial_iff hd regular ht (.inr ⟨outOfSeason, rfl⟩)).mp ?_
    exact (year r.offset (.inr rfl) hw).mpr inSeason

end Reread

theorem sighting {r : ZoneRule} (regular : r.IsRegular) (below : r.BelowDay) {w : Int} (hw : InCalendar w) :
    Sighting r.inForce w (r.ofLocal w .first) (r.ofLocal w .second) := by
  cases hd : r.daylight with
  | some d => exact sighting_of_some hd regular below hw
  | none =>
    have always (f : Fold) : r.ofLocal w f = r.standardType := by unfold ofLocal; rw [hd]
    rw [always, always]
    refine .once (.refl _) (fun t _ shows => ?_) fun _ => ?_
    · unfold Timeline.Shows at shows
      rw [inForce_of_none hd] at shows
      omega
    · rw [inForce_of_none hd]
      exact .refl _

theorem reread {r : ZoneRule} (regular : r.IsRegular) (within : r.WithinTwoDays) {t : Int} (ht : InCalendar t)
    (hw : InCalendar (t + (r.inForce t).offset)) : r.ofLocal (t + (r.inForce t).offset) (r.ofUtc t).2 = r.inForce t := by
  cases hd : r.daylight with
  | some d => exact reread_of_some hd regular within ht hw
  | none => rw [inForce_of_none hd]; unfold ofLocal; rw [hd]

theorem BelowDay.inForce {r : ZoneRule} (below : r.BelowDay) (t : Int) : (r.inForce t).BelowDay := by
  unfold ZoneRule.inForce
  split
  · exact below.standard
  · rename_i d hd
    split
    · exact below.daylight d hd
    · exact below.standard

theorem BelowDay.ofLocal {r : ZoneRule} (below : r.BelowDay) (w : Int) (f : Fold) : (r.ofLocal w f).BelowDay := by
  cases hd : r.daylight with
  | none => unfold ZoneRule.ofLocal; rw [hd]; exact below.standard
  | some d =>
    rw [ofLocal_eq hd]
    split
    · exact below.daylight d hd
    · exact below.standard

theorem ofLocal_or {r : ZoneRule} {d : Daylight} (hd : r.daylight = some d) (w : Int) (f : Fold) :
    r.ofLocal w f = d.type ∨ r.ofLocal w f = r.standardType := by
  rw [ofLocal_eq hd]
  split
  · exact .inl rfl
  · exact .inr rfl

/-- Guesses at a reading with the same offset are the same. -/
theorem ofLocal_eq_of_offset_eq {r : ZoneRule} {w : Int} {f g : Fold}
    (h : (r.ofLocal w f).offset = (r.ofLocal w g).offset) : r.ofLocal w f = r.ofLocal w g := by
  cases hd : r.daylight with
  | none => unfold ofLocal; rw [hd]
  | some d =>
    by_cases same : d.offset = r.offset
    · have trial : r.trial d f = r.trial d g := by
        cases f <;> cases g <;> simp [ZoneRule.trial, same]
      rw [ofLocal_eq hd, ofLocal_eq hd, trial]
    · rcases ofLocal_or hd w f with hf | hf <;> rcases ofLocal_or hd w g with hg | hg
      · rw [hf, hg]
      · rw [hf, hg] at h; exact absurd h same
      · rw [hf, hg] at h; exact absurd h.symm same
      · rw [hf, hg]

/-- If a reading may have two offsets of less than a day, the rule has no other. -/
theorem belowDay_of_two {r : ZoneRule} {w : Int} {f g : Fold} (below : (r.ofLocal w f).BelowDay)
    (below' : (r.ofLocal w g).BelowDay) (ne : (r.ofLocal w f).offset ≠ (r.ofLocal w g).offset) : r.BelowDay := by
  cases hd : r.daylight with
  | none => unfold ofLocal at ne; rw [hd] at ne; exact absurd rfl ne
  | some d =>
    rcases ofLocal_or hd w f with hf | hf <;> rcases ofLocal_or hd w g with hg | hg <;> rw [hf] at below ne <;>
      rw [hg] at below' ne
    · exact absurd rfl ne
    · exact ⟨below', fun d' hd' => by rw [hd] at hd'; cases hd'; exact below⟩
    · exact ⟨below, fun d' hd' => by rw [hd] at hd'; cases hd'; exact below'⟩
    · exact absurd rfl ne

end ZoneRule

/-! ## Regions without changes -/

namespace RegionData

variable {d : RegionData} (empty : d.size = 0)

include empty

theorem clock_of_empty : d.clock = d.after.inForce := by
  funext t
  unfold clock ofUtc
  rw [if_pos empty, ZoneRule.ofUtc_eq_inForce]

theorem ofLocal_of_empty (w : Int) (f : Fold) : d.ofLocal w f = d.after.ofLocal w f := by
  unfold ofLocal; rw [if_pos empty]

theorem reread_of_rule (regular : d.after.IsRegular) (within : d.after.WithinTwoDays) {t : Int} (ht : InCalendar t)
    (hw : InCalendar (t + (d.clock t).offset)) :
    (d.ofLocal (t + (d.clock t).offset) (d.ofUtc t).2).Alike (d.clock t) := by
  have fold : (d.ofUtc t).2 = (d.after.ofUtc t).2 := by unfold ofUtc; rw [if_pos empty]
  rw [clock_of_empty empty] at hw ⊢
  rw [ofLocal_of_empty empty, fold, ZoneRule.reread regular within ht hw]
  exact .refl _

theorem faithful_of_rule (regular : d.after.IsRegular) (below : d.after.BelowDay) : d.Faithful where
  sighting w hw := by
    rw [clock_of_empty empty, ofLocal_of_empty empty, ofLocal_of_empty empty]
    exact ZoneRule.sighting regular below hw
  reread _ ht hw := reread_of_rule empty regular below.withinTwoDays ht hw

theorem findsBelowDay_of_rule (below : d.after.BelowDay) : d.FindsBelowDay where
  clock t := by
    rw [clock_of_empty empty]
    exact below.inForce t
  ofLocal w f := by
    rw [ofLocal_of_empty empty]
    exact below.ofLocal w f

end RegionData

theorem LocalType.belowDay_of_offset {t : LocalType} {o : Offset} (h : o.seconds = t.offset) : t.BelowDay := by
  have lo := o.neg_day_lt; have hi := o.lt_day
  unfold BelowDay; omega

/-- An offset found for a reading is that of the moment that the reading is by it. If the rule has offsets
of a day or more, there is only one for each reading. -/
theorem Region.offset_of_candidates_of_rule {r : Region} {x : CivilDateTime} (empty : r.data.size = 0)
    (regular : r.data.after.IsRegular) {res : Resolution RegionOffset} (h : (r.candidates x).result = .ok res)
    {o : RegionOffset} (ho : o ∈ res.toList) {u : CivilDateTime}
    (at_ : u.timestamp = x.timestamp - o.offset.seconds) : (r.offsetOfUtc u).result = .ok o := by
  by_cases below : r.data.after.BelowDay
  · exact offset_of_candidates (RegionData.faithful_of_rule empty regular below) h ho at_
  obtain ⟨early, late, he, hl, inside, shows, rfl⟩ := candidates_eq_ok.mp h
  have se := (offsetOf_eq_ok.mp he).1; have sl := (offsetOf_eq_ok.mp hl).1
  rw [RegionData.ofLocal_of_empty empty] at he hl se sl
  have same : (r.data.after.ofLocal x.timestamp .first).offset = (r.data.after.ofLocal x.timestamp .second).offset :=
    Classical.byContradiction fun ne => below (ZoneRule.belowDay_of_two (LocalType.belowDay_of_offset se)
      (LocalType.belowDay_of_offset sl) ne)
  rw [if_pos (Offset.ext (by rw [se, sl, same]))] at ho
  rw [List.mem_singleton.mp ho] at at_ ⊢
  rw [← at_] at shows
  unfold Timeline.Shows at shows
  refine offsetOfUtc_eq_ok.mpr ⟨by rw [shows]; exact x.inCalendar_timestamp, ?_⟩
  rw [shows, RegionData.ofLocal_of_empty empty, ← he]
  cases (r.data.ofUtc u.timestamp).2 with
  | first => rfl
  | second => rw [ZoneRule.ofLocal_eq_of_offset_eq same]

/-- A reading of a region that only has a rule resolves to the seconds at which the rule shows it. -/
theorem resolve_rule_inverseImage (w : World) (r : Region) (x : CivilDateTime) (empty : r.data.size = 0)
    (regular : r.data.after.IsRegular) (below : r.data.after.BelowDay) (inside : x.Inside 172800) :
    InverseImage r.data.after.inForce r.key x ((Zone.region r).resolve w x).result := by
  have near : x.Inside 86400 := by
    unfold CivilDateTime.Inside at *; omega
  have exhausts := Region.resolve_exhausts w (RegionData.faithful_of_rule empty regular below)
    (RegionData.findsBelowDay_of_rule empty below) near
  rw [RegionData.clock_of_empty empty] at exhausts
  exact exhausts.inverseImage

/-- The winter of Irish time. Summer is standard time there, and the clock is put back for the winter,
which lasts over New Year. -/
def irishWinter : Daylight := ⟨"GMT", 0, ⟨.weekdayOfMonth 10 5 0, 7200⟩, ⟨.weekdayOfMonth 3 5 0, 3600⟩⟩

def irishRule : ZoneRule := ⟨"IST", 3600, some irishWinter⟩

def ireland : Region := ⟨"Europe/Dublin", ⟨⟨3600, false, "IST"⟩, ⟨3600, false, "IST"⟩, #[], irishRule⟩⟩

theorem belowDay_irishRule : irishRule.BelowDay where
  standard := by decide
  daylight d hd := by cases hd; decide

theorem regular_irishWinter (c : DayCount) : (irishWinter.seasons c 3600).Regular 259200 518400 := by
  refine Seasons.regular_of_bounds (290 * 86400) (310 * 86400) (80 * 86400) (100 * 86400) (fun y => ?_)
    (fun y => ?_) (by decide) (by decide) (.inr (by decide))
  · have := RuleDate.reading_last c y 0 7200 (m := 10) (by decide) (by decide)
    simp only [Daylight.seasons, irishWinter]
    omega
  · have := RuleDate.reading_last c y 0 3600 (m := 3) (by decide) (by decide)
    simp only [Daylight.seasons, irishWinter]
    omega

theorem isRegular_irishRule : irishRule.IsRegular := by
  intro d hd
  cases hd
  exact (regular_irishWinter regionCount).mono (by decide) (by decide)

/-- The reading 2024-10-27 01:30:00, which was shown twice, first in summer. -/
def irishAutumn : CivilDateTime where
  date := ⟨739186, by decide, by decide⟩
  time := { ClockTime.midnight with secondOfDay := 5400, second_nonneg := by decide, second_lt := by decide }

theorem resolve_irishAutumn :
    ireland.data.size = 0 ∧ irishRule.IsRegular ∧ irishRule.BelowDay ∧ irishAutumn.Inside 172800 ∧
      InverseImage irishRule.inForce "Europe/Dublin" irishAutumn
        ((Zone.region ireland).resolve ⟨irishRule, [], .constant none none none none⟩ irishAutumn).result :=
  ⟨rfl, isRegular_irishRule, belowDay_irishRule, by decide,
    resolve_rule_inverseImage _ ireland _ rfl isRegular_irishRule belowDay_irishRule (by decide)⟩

end CivilTime
