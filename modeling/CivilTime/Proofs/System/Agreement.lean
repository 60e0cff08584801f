/-
  CivilTime.Proofs.System.Agreement — the system's zone and a region with the same rule.

  The two have nothing in common but the rule: the system's clock is searched for an instant, a region
  is asked for a kind of local time. Under regular seasons both answers are exact, so they are the
  same just where the two clocks are (`system_agrees_with_region`).

  The clocks are apart (`ZoneRule.Apart`) in two stretches of time.
  (1) Before 1970 the system's clock takes the changes of a year to be still to come, and stands all
  year as it does at New Year. A region's clock is changed, so from the first change of a year to the
  second one they are apart (`Seasons.Amid`).
  (2) Since then, the day 59 of a count without leap days is the 28th of February for the system and in
  a leap year the 29th for a region. For a day one of the clocks has been changed and the other has
  not (`RuleDate.Eve`).
  Both occur (`system_apart_from_region`).
-/

import CivilTime.Proofs.Region.Season
import CivilTime.Proofs.System.Season

namespace CivilTime

open Calendar
open CivilDateTime (InCalendar)
open ZoneRule (regionCount)

/-- The outcomes are the same, but for the kinds of zone they stand in. -/
inductive Outcomes.Agree : Outcomes → Outcomes → Prop
  | skipped : Agree (.error (.failure .invalidDateTime)) (.error (.failure .invalidDateTime))
  | single {a b : ZonedDateTime} : a.withFixedOffset = b.withFixedOffset →
      Agree (.ok (.single a)) (.ok (.single b))
  | ambiguous {a b c d : ZonedDateTime} : a.withFixedOffset = c.withFixedOffset →
      b.withFixedOffset = d.withFixedOffset → Agree (.ok (.ambiguous a b)) (.ok (.ambiguous c d))

/-! ## Exact outcomes of the same reading -/

theorem ZonedDateTime.Reads.withFixedOffset_eq {m n : ZonedDateTime} {x : CivilDateTime} (hm : m.Reads x)
    (hn : n.Reads x) (h : m.utc.timestamp = n.utc.timestamp) : m.withFixedOffset = n.withFixedOffset := by
  have utc : m.utc = n.utc := CivilDateTime.ext_timestamp h (hm.nanosecond.trans hn.nanosecond.symm)
  have offset : m.state.offset = n.state.offset := by
    rw [Offset.ext_iff]
    have := hm.seconds; have := hn.seconds; omega
  unfold ZonedDateTime.withFixedOffset
  rw [utc, offset]

theorem ZonedDateTime.utc_eq_of_withFixedOffset_eq {m n : ZonedDateTime}
    (h : m.withFixedOffset = n.withFixedOffset) : m.utc = n.utc := by
  have utc : m.withFixedOffset.utc = n.withFixedOffset.utc := by rw [h]
  exact utc

/-- Two exact outcomes of a reading agree, if the same seconds pass their tests. -/
theorem Exhausts.agree {shows shows' : Int → Prop} {proper proper' : ZonedDateTime → Prop} {out out' : Outcomes}
    {x : CivilDateTime} (h : Exhausts shows proper out) (h' : Exhausts shows' proper' out')
    (same : ∀ t, shows t ↔ shows' t) (reads : ∀ m, proper m → m.Reads x) (reads' : ∀ m, proper' m → m.Reads x) :
    out.Agree out' := by
  -- outcomes of different kinds would have the reading shown at different numbers of seconds
  cases h with
  | skipped never =>
    cases h' with
    | skipped _ => exact .skipped
    | single n _ only => exact absurd ((same _).mpr ((only _).mpr rfl)) (never _)
    | ambiguous c d _ _ _ only => exact absurd ((same _).mpr ((only _).mpr (.inl rfl))) (never _)
  | single m hm only =>
    cases h' with
    | skipped never => exact absurd ((same _).mp ((only _).mpr rfl)) (never _)
    | single n hn only' =>
      have at_ := (only' _).mp ((same _).mp ((only _).mpr rfl))
      exact .single ((reads m hm).withFixedOffset_eq (reads' n hn) at_)
    | ambiguous c d _ _ less only' =>
      have hc := (only _).mp ((same _).mpr ((only' _).mpr (.inl rfl)))
      have hd := (only _).mp ((same _).mpr ((only' _).mpr (.inr rfl)))
      omega
  | ambiguous a b ha hb less only =>
    cases h' with
    | skipped never => exact absurd ((same _).mp ((only _).mpr (.inl rfl))) (never _)
    | single n _ only' =>
      have ta := (only' _).mp ((same _).mp ((only _).mpr (.inl rfl)))
      have tb := (only' _).mp ((same _).mp ((only _).mpr (.inr rfl)))
      omega
    | ambiguous c d hc hd less' only' =>
      have ta := (only' _).mp ((same _).mp ((only _).mpr (.inl rfl)))
      have tb := (only' _).mp ((same _).mp ((only _).mpr (.inr rfl)))
      have tc := (only _).mp ((same _).mpr ((only' _).mpr (.inl rfl)))
      exact .ambiguous ((reads a ha).withFixedOffset_eq (reads' c hc) (by omega))
        ((reads b hb).withFixedOffset_eq (reads' d hd) (by omega))

/-- Two exact outcomes of a reading agree just when the same seconds pass their tests. -/
theorem Exhausts.agree_iff {shows shows' : Int → Prop} {proper proper' : ZonedDateTime → Prop} {out out' : Outcomes}
    {x : CivilDateTime} (h : Exhausts shows proper out) (h' : Exhausts shows' proper' out')
    (reads : ∀ m, proper m → m.Reads x) (reads' : ∀ m, proper' m → m.Reads x) :
    out.Agree out' ↔ ∀ t, shows t ↔ shows' t := by
  refine ⟨fun agree t => ?_, fun same => h.agree h' same reads reads'⟩
  cases agree with
  | skipped =>
    cases h with | skipped never
    cases h' with | skipped never'
    exact iff_of_false (never t) (never' t)
  | single eq =>
    cases h with | single m _ only
    cases h' with | single n _ only'
    rw [only, only', ZonedDateTime.utc_eq_of_withFixedOffset_eq eq]
  | ambiguous eq eq' =>
    cases h with | ambiguous a b _ _ _ only
    cases h' with | ambiguous c d _ _ _ only'
    rw [only, only', ZonedDateTime.utc_eq_of_withFixedOffset_eq eq, ZonedDateTime.utc_eq_of_withFixedOffset_eq eq']

/-! ## The same rule on two clocks -/

/-- Both clocks know such a day: a weekday of a month, or one of a count without leap days. -/
def RuleDay.Shared : RuleDay → Prop
  | weekdayOfMonth .. | withoutLeapDay _ => True
  | withLeapDay _ => False

/-- The second `t` is on the eve of a leap day for a change on day 59 of the count without leap days,
from clocks that have been `o` ahead of UTC: the system makes the change a day before a region. -/
structure RuleDate.Eve (date : RuleDate) (o t : Int) : Prop where
  odd : date.day = .withoutLeapDay 59
  leap : IsLeap (yearOfSecond t)
  left : date.reading System.dayCount (yearOfSecond t) - o ≤ t
  right : t < date.reading System.dayCount (yearOfSecond t) - o + 86400

/-- The second `t` lies between the two changes of a year, whichever of them is the first. -/
def Seasons.Amid (s : Seasons) (y t : Int) : Prop := min (s.start y) (s.stop y) ≤ t ∧ t < max (s.start y) (s.stop y)

def ZoneRule.Shared (r : ZoneRule) : Prop := ∀ d, r.daylight = some d → d.start.day.Shared ∧ d.stop.day.Shared

/-- The two clocks are set differently at the second `t` of UTC. -/
def ZoneRule.Apart (r : ZoneRule) (t : Int) : Prop :=
  ∃ d, r.daylight = some d ∧ d.offset ≠ r.offset ∧
    if t < 0 then (r.seasons d).Amid (yearOfSecond t) t
    else d.start.Eve r.offset t ∨ d.stop.Eve d.offset t

def ZoneRule.HasOffset (r : ZoneRule) (o : Int) : Prop := o = r.offset ∨ ∃ d, r.daylight = some d ∧ o = d.offset

/-- The clocks are set differently at one of the seconds that have the reading `w` by an offset of the rule. -/
def ZoneRule.ApartFor (r : ZoneRule) (w : Int) : Prop := ∃ o, r.HasOffset o ∧ r.Apart (w - o)

theorem ZoneRule.Shared.of_some {r : ZoneRule} {d : Daylight} (hd : r.daylight = some d) (start : d.start.day.Shared)
    (stop : d.stop.day.Shared) : r.Shared := by
  intro d' hd'
  rw [hd] at hd'; cases hd'
  exact ⟨start, stop⟩

/-- A region makes a change on the same day as the system, or on the next if that is the leap day. -/
theorem RuleDate.reading_region {date : RuleDate} (shared : date.day.Shared) (y : Int) :
    date.reading regionCount y =
      date.reading System.dayCount y + if date.day = .withoutLeapDay 59 ∧ IsLeap y then 86400 else 0 := by
  obtain ⟨day, time⟩ := date
  cases day with
  | weekdayOfMonth m week weekday =>
    rw [if_neg (fun h => by cases h.1), Int.add_zero]; rfl
  | withLeapDay n => exact shared.elim
  | withoutLeapDay n =>
    simp only [reading, RuleDay.ordinal, regionCount, System.dayCount, RuleDay.withoutLeapDay.injEq]
    by_cases leap : IsLeap y
    · simp only [leap, true_and, and_true]
      split <;> split <;> split <;> omega
    · simp only [leap, false_and, and_false, if_false, Int.add_zero]

theorem RuleDate.reading_region_bounds {date : RuleDate} (shared : date.day.Shared) (y : Int) :
    date.reading System.dayCount y ≤ date.reading regionCount y ∧
      date.reading regionCount y ≤ date.reading System.dayCount y + 86400 := by
  rw [reading_region shared]
  split <;> omega

/-- The eve of the leap day is the time from the system's change to the region's. -/
theorem RuleDate.eve_iff {date : RuleDate} (shared : date.day.Shared) (o t : Int) : date.Eve o t ↔
    date.reading System.dayCount (yearOfSecond t) - o ≤ t ∧ t < date.reading regionCount (yearOfSecond t) - o := by
  rw [reading_region shared]
  constructor
  · intro eve
    have left := eve.left; have right := eve.right
    rw [if_pos ⟨eve.odd, eve.leap⟩]
    omega
  · intro h
    split at h
    · rename_i odd
      exact ⟨odd.1, odd.2, h.1, by omega⟩
    · omega

theorem ZoneRule.seasons_bounds {r : ZoneRule} {d : Daylight} (hd : r.daylight = some d) (shared : r.Shared)
    (y : Int) : ((System.seasons r d).start y ≤ (r.seasons d).start y ∧
        (r.seasons d).start y ≤ (System.seasons r d).start y + 86400) ∧
      (System.seasons r d).stop y ≤ (r.seasons d).stop y ∧
        (r.seasons d).stop y ≤ (System.seasons r d).stop y + 86400 := by
  have start := RuleDate.reading_region_bounds (shared d hd).1 y
  have stop := RuleDate.reading_region_bounds (shared d hd).2 y
  simp only [Daylight.seasons]
  omega

/-- Seasons that are regular on the system's clock are regular in a region, with a day less to spare. -/
theorem ZoneRule.isRegular_of_system {r : ZoneRule} (regular : System.IsRegular r) (shared : r.Shared) :
    r.IsRegular := by
  intro d hd
  have gain := regular.gain d hd
  have near (y : Int) : ((r.seasons d).start y - (System.seasons r d).start y).natAbs ≤ (86400 : Int) ∧
      ((r.seasons d).stop y - (System.seasons r d).stop y).natAbs ≤ (86400 : Int) := by
    have := seasons_bounds hd shared y
    omega
  exact ((regular.seasons d hd).of_near (by decide) near).mono (by decide) (by omega)

/-! ## Where the clocks are apart -/

section Clocks

variable {r : ZoneRule} {d : Daylight} {t : Int} (hd : r.daylight = some d) (regular : System.IsRegular r)
  (shared : r.Shared) (ht : InCalendar t)

include hd regular shared ht

/-- Before 1970 the system's clock stands as at New Year, and so does the region's outside the two changes. -/
theorem inForce_iff_of_neg (early : t < 0) :
    ((System.seasons r d).InForce (System.reckoned t) t ↔ (r.seasons d).InForce (yearOfSecond t) t) ↔
      ¬ (r.seasons d).Amid (yearOfSecond t) t := by
  obtain ⟨lo, hi⟩ := year_bounds_of_inCalendar ht
  have apart := (regular.seasons d hd).apart _ lo hi
  have region := ZoneRule.seasons_bounds hd shared (yearOfSecond t)
  rw [System.reckoned_of_neg early, System.inForce_1970_of_neg (regular.seasons d hd) (by decide) lo hi early]
  unfold Seasons.InForce Seasons.Amid ZoneRule.Between
  split <;> omega

/-- Since 1970 the clocks differ while one of them has made a change and the other has not. -/
theorem inForce_iff_of_nonneg (late : 0 ≤ t) :
    ((System.seasons r d).InForce (System.reckoned t) t ↔ (r.seasons d).InForce (yearOfSecond t) t) ↔
      ¬ (d.start.Eve r.offset t ∨ d.stop.Eve d.offset t) := by
  obtain ⟨lo, hi⟩ := year_bounds_of_inCalendar ht
  have apart := (regular.seasons d hd).apart _ lo hi
  have region := ZoneRule.seasons_bounds hd shared (yearOfSecond t)
  have start : d.start.Eve r.offset t ↔ (System.seasons r d).start (yearOfSecond t) ≤ t ∧
      t < (r.seasons d).start (yearOfSecond t) := RuleDate.eve_iff (shared d hd).1 _ _
  have stop : d.stop.Eve d.offset t ↔ (System.seasons r d).stop (yearOfSecond t) ≤ t ∧
      t < (r.seasons d).stop (yearOfSecond t) := RuleDate.eve_iff (shared d hd).2 _ _
  rw [System.reckoned_of_nonneg late, start, stop]
  unfold Seasons.InForce ZoneRule.Between
  split <;> split <;> omega

end Clocks

/-- Two choices between kinds of local time differ in the offset if they are made differently and the kinds differ. -/
theorem offset_ite_eq_iff {A B : Prop} [Decidable A] [Decidable B] {a b : LocalType} :
    (if A then a else b).offset = (if B then a else b).offset ↔ ¬ (a.offset ≠ b.offset ∧ ¬ (A ↔ B)) := by
  by_cases hA : A <;> by_cases hB : B <;> simp [hA, hB, eq_comm]

/-- The clocks show the same offset at just the seconds at which they are not apart. -/
theorem offset_clock_eq_iff {r : ZoneRule} {t : Int} (regular : System.IsRegular r) (shared : r.Shared)
    (ht : InCalendar t) : (System.clock r t).offset = (r.inForce t).offset ↔ ¬ r.Apart t := by
  cases hd : r.daylight with
  | none =>
    rw [System.clock_of_none hd, ZoneRule.inForce_of_none hd]
    refine iff_of_true rfl fun apart => ?_
    obtain ⟨d, hd', -⟩ := apart
    rw [hd] at hd'; cases hd'
  | some d =>
    have apart : r.Apart t ↔ d.offset ≠ r.offset ∧
        ¬ ((System.seasons r d).InForce (System.reckoned t) t ↔ (r.seasons d).InForce (yearOfSecond t) t) := by
      unfold ZoneRule.Apart
      simp only [hd, Option.some.injEq, exists_eq_left']
      split
      · rw [inForce_iff_of_neg hd regular shared ht ‹_›, Classical.not_not]
      · rw [inForce_iff_of_nonneg hd regular shared ht (by omega), Classical.not_not]
    rw [System.clock_of_some hd regular ht, ZoneRule.inForce_of_some hd, apart]
    exact offset_ite_eq_iff

/-! ## The same answers -/

theorem ZoneRule.HasOffset.of_some {r : ZoneRule} {d : Daylight} {o : Int} (hd : r.daylight = some d)
    (h : r.HasOffset o) : o = r.offset ∨ o = d.offset := by
  refine h.imp_right fun h => ?_
  obtain ⟨d', hd', rfl⟩ := h
  rw [hd] at hd'; cases hd'
  rfl

theorem ZoneRule.HasOffset.natAbs_lt {r : ZoneRule} {o : Int} (below : r.BelowDay) (h : r.HasOffset o) :
    o.natAbs < 86400 := by
  rcases h with rfl | ⟨d, hd, rfl⟩
  · exact below.standard_natAbs
  · exact below.daylight_natAbs hd

section

variable {r : ZoneRule} {x : CivilDateTime} (regular : System.IsRegular r) (below : r.BelowDay) (shared : r.Shared)
  (inside : x.Inside 259200)

include regular below shared inside

theorem offset_clock_eq_iff_of_hasOffset {o : Int} (ho : r.HasOffset o) :
    (System.clock r (x.timestamp - o)).offset = (r.inForce (x.timestamp - o)).offset ↔ ¬ r.Apart (x.timestamp - o) := by
  have near := ho.natAbs_lt below
  exact offset_clock_eq_iff regular shared (System.inCalendar_of_inside inside (by omega))

/-- A reading is shown at the same seconds by both clocks, unless they are apart at one of the seconds at
which it may be shown. -/
theorem shows_clock_iff_inForce :
    (∀ t, (System.clock r).Shows x.timestamp t ↔ r.inForce.Shows x.timestamp t) ↔ ¬ r.ApartFor x.timestamp := by
  have exact_ (o : Int) (ho : r.HasOffset o) := offset_clock_eq_iff_of_hasOffset regular below shared inside ho
  unfold Timeline.Shows
  constructor
  · -- one of the two offsets at such a second is the one by which it has the reading
    intro same apart
    obtain ⟨o, ho, apart⟩ := apart
    have differ := mt (exact_ o ho).mp (not_not_intro apart)
    obtain ⟨d, hd, -⟩ := apart
    have either := ho.of_some hd
    have clock := ZoneRule.HasOffset.of_some hd (System.offset_clock r (x.timestamp - o))
    have region := ZoneRule.HasOffset.of_some hd (r.offset_inForce (x.timestamp - o))
    have here := same (x.timestamp - o)
    omega
  · intro certain t
    constructor
    · intro shown
      have equal := (exact_ _ (System.offset_clock r t)).mpr fun apart => certain ⟨_, System.offset_clock r t, apart⟩
      rw [show x.timestamp - (System.clock r t).offset = t by omega] at equal
      omega
    · intro shown
      have equal := (exact_ _ (r.offset_inForce t)).mpr fun apart => certain ⟨_, r.offset_inForce t, apart⟩
      rw [show x.timestamp - (r.inForce t).offset = t by omega] at equal
      omega

theorem offset_stateOfUtc_eq_iff (w : World) (z : Region) (rule : w.system = r) (after : z.data.after = r)
    (empty : z.data.size = 0) :
    ∃ s s', (Zone.system.stateOfUtc w x).result = .ok s ∧ ((Zone.region z).stateOfUtc w x).result = .ok s' ∧
      (s.offset = s'.offset ↔ ¬ r.Apart x.timestamp) := by
  have clock : z.data.clock = r.inForce := after ▸ RegionData.clock_of_empty empty
  have faithful := RegionData.faithful_of_rule empty (after ▸ ZoneRule.isRegular_of_system regular shared)
    (after ▸ below)
  have belowHere := below.inForce x.timestamp
  obtain ⟨o, ho, seconds⟩ := System.exists_offset? below inside (u := x.timestamp) (by omega)
  obtain ⟨q, hq⟩ := Region.exists_offsetOfUtc (x := x) faithful (by rw [clock]; exact belowHere) (by
    rw [clock]
    unfold LocalType.BelowDay at belowHere
    exact System.inCalendar_of_inside inside (by omega))
  obtain ⟨q', hq', region⟩ := Region.isRegion_of_offsetOfUtc faithful hq
  refine ⟨.system o, .region q, ?_, Traced.result_bind_of_ok hq, ?_⟩
  · exact Traced.result_bind_of_ok (System.of_orInvalid_eq_ok.mpr (by rw [rule]; exact ho))
  · cases hq'
    show o = q' ↔ _
    rw [Offset.ext_iff, seconds, region, clock, System.offsetAt_eq,
      offset_clock_eq_iff regular shared x.inCalendar_timestamp]

theorem resolve_agrees_iff (w : World) (z : Region) (rule : w.system = r) (after : z.data.after = r)
    (empty : z.data.size = 0) :
    Outcomes.Agree (Zone.system.resolve w x).result ((Zone.region z).resolve w x).result ↔
      ¬ r.ApartFor x.timestamp := by
  have near : x.Inside 86400 := by
    unfold CivilDateTime.Inside at *; omega
  have system := System.resolve_exhausts w (rule ▸ regular) (rule ▸ below) inside
  have region := Region.resolve_exhausts w
    (RegionData.faithful_of_rule empty (after ▸ ZoneRule.isRegular_of_system regular shared) (after ▸ below))
    (RegionData.findsBelowDay_of_rule empty (after ▸ below)) near
  rw [system.agree_iff region (fun m hm => hm.1) fun m hm => hm.reads, rule, RegionData.clock_of_empty empty, after]
  exact shows_clock_iff_inForce regular below shared inside

end

/-- The system's zone and a region with the same rule agree on a moment of UTC and on a reading, unless
their clocks are apart there. -/
theorem system_agrees_with_region (w : World) (z : Region) (x : CivilDateTime) (empty : z.data.size = 0)
    (rule : z.data.after = w.system) (regular : System.IsRegular w.system) (below : w.system.BelowDay)
    (shared : w.system.Shared) (inside : x.Inside 259200) :
    (∃ s s', (Zone.system.stateOfUtc w x).result = .ok s ∧ ((Zone.region z).stateOfUtc w x).result = .ok s' ∧
      (s.offset = s'.offset ↔ ¬ w.system.Apart x.timestamp)) ∧
    (Outcomes.Agree (Zone.system.resolve w x).result ((Zone.region z).resolve w x).result ↔
      ¬ w.system.ApartFor x.timestamp) :=
  ⟨offset_stateOfUtc_eq_iff regular below shared inside w z rfl rule empty,
    resolve_agrees_iff regular below shared inside w z rfl rule empty⟩

theorem isRegular_system_irishRule : System.IsRegular irishRule where
  seasons d hd := by cases hd; exact regular_irishWinter System.dayCount
  gain d hd := by cases hd; decide

theorem shared_irishRule : irishRule.Shared := .of_some rfl trivial trivial

/-- Irish clocks are never changed on a plain day of the year. -/
theorem not_apart_irishRule {t : Int} (late : 0 ≤ t) : ¬ irishRule.Apart t := by
  intro h
  obtain ⟨d, hd, -, h⟩ := h
  cases hd
  rw [if_neg (by omega)] at h
  rcases h with start | stop
  · cases start.odd
  · cases stop.odd

def systemWorld (rule : ZoneRule) : World := ⟨rule, [], .constant none none none none⟩

theorem system_agrees_with_ireland :
    System.IsRegular irishRule ∧ irishRule.BelowDay ∧ irishRule.Shared ∧ irishAutumn.Inside 259200 ∧
      (∃ s s', (Zone.system.stateOfUtc (systemWorld irishRule) irishAutumn).result = .ok s ∧
        ((Zone.region ireland).stateOfUtc (systemWorld irishRule) irishAutumn).result = .ok s' ∧
        s.offset = s'.offset) ∧
      Outcomes.Agree (Zone.system.resolve (systemWorld irishRule) irishAutumn).result
        ((Zone.region ireland).resolve (systemWorld irishRule) irishAutumn).result := by
  have inside : irishAutumn.Inside 259200 := by decide
  obtain ⟨⟨s, s', here, there, same⟩, both⟩ := system_agrees_with_region (systemWorld irishRule) ireland irishAutumn
    rfl rfl isRegular_system_irishRule belowDay_irishRule shared_irishRule inside
  refine ⟨isRegular_system_irishRule, belowDay_irishRule, shared_irishRule, inside,
    ⟨s, s', here, there, same.mpr (not_apart_irishRule (by decide))⟩, both.mpr fun h => ?_⟩
  obtain ⟨o, ho, h⟩ := h
  have small := ho.natAbs_lt belowDay_irishRule
  have late : irishAutumn.timestamp = 1729992600 := by decide
  exact not_apart_irishRule (by omega) h

/-! ## Apart -/

/-- Daylight saving time from the day that is never the leap day, but the last one before it. -/
def leapEveSummer : Daylight := ⟨"DST", 3600, ⟨.withoutLeapDay 59, 7200⟩, ⟨.withoutLeapDay 300, 7200⟩⟩

def leapEveRule : ZoneRule := ⟨"STD", 0, some leapEveSummer⟩

def leapEveRegion : Region := ⟨"Leap/Eve", ⟨⟨0, false, "STD"⟩, ⟨0, false, "STD"⟩, #[], leapEveRule⟩⟩

/-- 2024-02-28 12:00:00. -/
def leapEve2024 : CivilDateTime where
  date := ⟨738944, by decide, by decide⟩
  time := { ClockTime.midnight with secondOfDay := 43200, second_nonneg := by decide, second_lt := by decide }

theorem isRegular_leapEveRule : System.IsRegular leapEveRule where
  seasons d hd := by
    cases hd
    refine Seasons.regular_of_bounds (58 * 86400) (60 * 86400) (298 * 86400) (302 * 86400) (fun y => ?_)
      (fun y => ?_) (by decide) (by decide) (.inl (by decide))
    · simp only [Daylight.seasons, leapEveSummer, leapEveRule, RuleDate.reading_eq, RuleDay.ordinal, System.dayCount]
      split <;> omega
    · simp only [Daylight.seasons, leapEveSummer, leapEveRule, RuleDate.reading_eq, RuleDay.ordinal, System.dayCount]
      split <;> omega
  gain d hd := by cases hd; decide

theorem shared_leapEveRule : leapEveRule.Shared := .of_some rfl trivial trivial

def centralSummer : Daylight := ⟨"CEST", 7200, ⟨.weekdayOfMonth 3 5 0, 7200⟩, ⟨.weekdayOfMonth 10 5 0, 10800⟩⟩

def centralRule : ZoneRule := ⟨"CET", 3600, some centralSummer⟩

def centralRegion : Region := ⟨"Central", ⟨⟨3600, false, "CET"⟩, ⟨3600, false, "CET"⟩, #[], centralRule⟩⟩

/-- 1950-07-01 12:00:00. -/
def summer1950 : CivilDateTime where
  date := ⟨712039, by decide, by decide⟩
  time := { ClockTime.midnight with secondOfDay := 43200, second_nonneg := by decide, second_lt := by decide }

theorem isRegular_centralRule : System.IsRegular centralRule where
  seasons d hd := by
    cases hd
    refine Seasons.regular_of_bounds (80 * 86400) (100 * 86400) (290 * 86400) (310 * 86400) (fun y => ?_)
      (fun y => ?_) (by decide) (by decide) (.inl (by decide))
    · have := RuleDate.reading_last System.dayCount y 0 7200 (m := 3) (by decide) (by decide)
      simp only [Daylight.seasons, centralSummer, centralRule]
      omega
    · have := RuleDate.reading_last System.dayCount y 0 10800 (m := 10) (by decide) (by decide)
      simp only [Daylight.seasons, centralSummer, centralRule]
      omega
  gain d hd := by cases hd; decide

theorem shared_centralRule : centralRule.Shared := .of_some rfl trivial trivial

/-- On the eve of a leap day the system's clock is on daylight saving time a day before the region's, and
before 1970 it is never on daylight saving time in summer. -/
theorem system_apart_from_region :
    (System.IsRegular leapEveRule ∧ leapEveRule.BelowDay ∧ leapEveRule.Shared ∧ leapEve2024.Inside 259200 ∧
      ∃ s s', (Zone.system.stateOfUtc (systemWorld leapEveRule) leapEve2024).result = .ok s ∧
        ((Zone.region leapEveRegion).stateOfUtc (systemWorld leapEveRule) leapEve2024).result =
          .ok s' ∧ s.offset ≠ s'.offset) ∧
    System.IsRegular centralRule ∧ centralRule.BelowDay ∧ centralRule.Shared ∧ summer1950.Inside 259200 ∧
      ∃ s s', (Zone.system.stateOfUtc (systemWorld centralRule) summer1950).result = .ok s ∧
        ((Zone.region centralRegion).stateOfUtc (systemWorld centralRule) summer1950).result =
          .ok s' ∧ s.offset ≠ s'.offset := by
  refine ⟨⟨isRegular_leapEveRule, ⟨by decide, fun d hd => by cases hd; decide⟩, shared_leapEveRule, by decide,
    .system ⟨3600, by decide, by decide⟩, .region ⟨.zero, "Leap/Eve", some "STD"⟩, rfl, rfl, by decide⟩,
    isRegular_centralRule, ⟨by decide, fun d hd => by cases hd; decide⟩, shared_centralRule, by decide,
    .system ⟨3600, by decide, by decide⟩, .region ⟨⟨7200, by decide, by decide⟩, "Central", some "CEST"⟩, rfl, rfl,
    by decide⟩

end CivilTime
