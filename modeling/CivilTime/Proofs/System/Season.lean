/-
  CivilTime.Proofs.System.Season — readings of the system's clock under regular seasons.

  The search for an instant looks at most two days away from the reading, and a day aside of it. If
  start and stop are three days away from New Year and from one another, all these looks speak of
  one year, and see one change at most. So each fold finds its own instant of a reading that is
  shown twice, and a reading resolves to the instants at which it is shown (`resolve_exhausts`).

  The clock lays the changes of the years before 1970 into 1970, and there, too, they are away from
  New Year: before 1970 they are all still to come. The changes of 1970 itself say the same of a
  second before it, so that is the year to ask (`reckoned`).
-/

import CivilTime.Proofs.Seasons
import CivilTime.Proofs.System.Search

namespace CivilTime.System

open Calendar
open CivilDateTime (InCalendar)

abbrev seasons (r : ZoneRule) (d : Daylight) : Seasons := d.seasons dayCount r.offset

/-- The seasons of the system's rule are regular for a margin of three days, start and stop are six
days apart, and the clock is changed by a day at most. -/
structure IsRegular (r : ZoneRule) : Prop where
  seasons : ∀ d, r.daylight = some d → (seasons r d).Regular 259200 518400
  gain : ∀ d, r.daylight = some d → (r.gain d).natAbs ≤ 86400

variable {r : ZoneRule} {d : Daylight} {t u v w a b : Int} {x : CivilDateTime}

/-! ## The reckoning -/

/-- The changes of the system's rule as the clock takes them. -/
def laid (r : ZoneRule) (d : Daylight) : Seasons where
  start := change d.start r.offset
  stop := change d.stop d.offset

/-- The year that is asked about a second. -/
def reckoned (t : Int) : Int := max 1970 (yearOfSecond t)

/-- Changes move with the start of their year. -/
theorem change_eq (date : RuleDate) (o t : Int) : change date o (yearOfSecond t) =
    date.reading dayCount (yearOfSecond t) - o + (yearBegins (reckoned t) - yearBegins (yearOfSecond t)) := by
  unfold change RuleDate.reading yearBegins reckoned; omega

theorem laid_start (r : ZoneRule) (d : Daylight) (t : Int) : (laid r d).start (yearOfSecond t) =
    (seasons r d).start (yearOfSecond t) + (yearBegins (reckoned t) - yearBegins (yearOfSecond t)) := change_eq ..

theorem laid_stop (r : ZoneRule) (d : Daylight) (t : Int) : (laid r d).stop (yearOfSecond t) =
    (seasons r d).stop (yearOfSecond t) + (yearBegins (reckoned t) - yearBegins (yearOfSecond t)) := change_eq ..

theorem yearBegins_1970 : yearBegins 1970 = 0 := rfl

theorem reckoned_of_nonneg (late : 0 ≤ t) : reckoned t = yearOfSecond t := by
  rw [← yearBegins_1970, ← le_yearOfSecond_iff] at late
  exact Int.max_eq_right late

theorem reckoned_of_neg (early : t < 0) : reckoned t = 1970 := by
  rw [← yearBegins_1970, ← Int.not_le, ← le_yearOfSecond_iff] at early
  exact Int.max_eq_left (by omega)

theorem reckoned_bounds (ht : InCalendar t) : 1 ≤ reckoned t ∧ reckoned t ≤ 9999 := by
  have := year_bounds_of_inCalendar ht
  unfold reckoned; omega

/-- Before 1970 both changes of 1970 are still to come. So it is daylight saving time if that stops in the year
before it starts, which it does in all years or in none. -/
theorem inForce_1970_of_neg {s : Seasons} {margin gap y : Int} (regular : s.Regular margin gap) (room : 0 ≤ margin)
    (lo : 1 ≤ y) (hi : y ≤ 9999) (early : t < 0) : s.InForce 1970 t ↔ s.stop y ≤ s.start y := by
  have start := regular.startInside 1970 (by decide) (by decide)
  have stop := regular.stopInside 1970 (by decide) (by decide)
  rw [yearBegins_1970] at start stop
  unfold Seasons.InForce ZoneRule.Between
  rcases regular.order with order | order
  · have own := order y lo hi; have first := order 1970 (by decide) (by decide)
    rw [if_pos first]; omega
  · have own := order y lo hi; have first := order 1970 (by decide) (by decide)
    rw [if_neg (by omega)]; omega

/-- Of regular seasons the year that is asked says what the clock takes from the changes that it has laid. -/
theorem inForce_laid (hd : r.daylight = some d) (regular : IsRegular r) (ht : InCalendar t) :
    (laid r d).InForce (yearOfSecond t) t ↔ (seasons r d).InForce (reckoned t) t := by
  have start := laid_start r d t
  have stop := laid_stop r d t
  by_cases late : 0 ≤ t
  · rw [reckoned_of_nonneg late, Int.sub_self, Int.add_zero] at start stop
    unfold Seasons.InForce
    rw [reckoned_of_nonneg late, start, stop]
  · have season := regular.seasons d hd
    obtain ⟨lo, hi⟩ := year_bounds_of_inCalendar ht
    have startInside := season.startInside _ lo hi
    have stopInside := season.stopInside _ lo hi
    have apart := season.apart _ lo hi
    rw [reckoned_of_neg (by omega), yearBegins_1970] at start stop
    rw [reckoned_of_neg (by omega), inForce_1970_of_neg season (by decide) lo hi (by omega)]
    unfold Seasons.InForce ZoneRule.Between
    split <;> omega

/-! ## The clock -/

theorem clock_of_none (hd : r.daylight = none) (t : Int) : clock r t = r.standardType := by
  unfold clock daylightAt?
  rw [hd]; rfl

/-- Start and stop are never the same instant, so it does not matter how the clock would take that. -/
theorem decide_inForce {s : Seasons} {y : Int} (ne : s.start y ≠ s.stop y) (t : Int) :
    (if s.stop y < s.start y then decide (t < s.stop y ∨ s.start y ≤ t)
      else decide (s.start y ≤ t ∧ t < s.stop y)) = decide (s.InForce y t) := by
  split
  · refine decide_eq_decide.mpr ?_
    unfold Seasons.InForce ZoneRule.Between
    rw [if_neg (by omega)]
  · refine decide_eq_decide.mpr ?_
    unfold Seasons.InForce ZoneRule.Between
    rw [if_pos (by omega)]

theorem daylightAt?_of_some (hd : r.daylight = some d) (regular : IsRegular r) (ht : InCalendar t) :
    daylightAt? r t = if (seasons r d).InForce (reckoned t) t then some d else none := by
  obtain ⟨lo, hi⟩ := year_bounds_of_inCalendar ht
  have apart := (regular.seasons d hd).apart _ lo hi
  have start := laid_start r d t
  have stop := laid_stop r d t
  have same := decide_inForce (s := laid r d) (y := yearOfSecond t) (by omega) t
  simp only [inForce_laid hd regular ht] at same
  unfold daylightAt?
  rw [hd]
  split
  · exact Option.filter_some_pos (same.trans (decide_eq_true ‹_›))
  · exact Option.filter_some_neg (same.trans (decide_eq_false ‹_›))

theorem clock_of_some (hd : r.daylight = some d) (regular : IsRegular r) (ht : InCalendar t) :
    clock r t = if (seasons r d).InForce (reckoned t) t then d.type else r.standardType := by
  unfold clock
  rw [daylightAt?_of_some hd regular ht]
  by_cases inSeason : (seasons r d).InForce (reckoned t) t
  · rw [if_pos inSeason, if_pos inSeason]
  · rw [if_neg inSeason, if_neg inSeason]

/-- Whether a second is in season can be asked of the year of any reading near it. -/
theorem clock_of_near (hd : r.daylight = some d) (regular : IsRegular r) (ht : InCalendar t) (hw : InCalendar w)
    (near : (t - w).natAbs ≤ 259200) :
    clock r t = if (seasons r d).InForce (reckoned w) t then d.type else r.standardType := by
  rw [clock_of_some hd regular ht]
  unfold reckoned
  simp only [Seasons.inForce_year_from (regular.seasons d hd) (by decide) 1970 ht hw (x := t) (by omega) (by omega)]

theorem belowDay_clock (below : r.BelowDay) (t : Int) : (clock r t).BelowDay := by
  unfold clock
  split
  · exact below.standard
  · rename_i d h
    exact below.daylight d (Option.filter_eq_some_iff.mp h).1

theorem offsetAt_natAbs (below : r.BelowDay) (t : Int) : (offsetAt r t).natAbs < 86400 := by
  have := belowDay_clock below t
  rw [offsetAt_eq]
  unfold LocalType.BelowDay at this
  omega

/-! ## Readings -/

theorem inCalendar_of_inside (inside : x.Inside 259200) (near : (u - x.timestamp).natAbs < 259200) :
    InCalendar u := by
  unfold CivilDateTime.Inside at inside
  unfold InCalendar; omega

/-- Near a reading the offset is decided by the season, in the year of the reading. -/
theorem offsetAt_of_near (hd : r.daylight = some d) (regular : IsRegular r) (inside : x.Inside 259200)
    (near : (u - x.timestamp).natAbs < 259200) :
    offsetAt r u = if (seasons r d).InForce (reckoned x.timestamp) u then d.offset else r.offset := by
  rw [offsetAt_eq, clock_of_near hd regular (inCalendar_of_inside inside near) x.inCalendar_timestamp (by omega)]
  split <;> rfl

/-- Two instants near a reading have one offset, if both are in season or both are not. -/
theorem offsetAt_eq_of_season (hd : r.daylight = some d) (regular : IsRegular r) (inside : x.Inside 259200)
    (hu : (u - x.timestamp).natAbs < 259200) (hv : (v - x.timestamp).natAbs < 259200)
    (h : (seasons r d).InForce (reckoned x.timestamp) u ↔ (seasons r d).InForce (reckoned x.timestamp) v) :
    offsetAt r u = offsetAt r v := by
  rw [offsetAt_of_near hd regular inside hu, offsetAt_of_near hd regular inside hv]
  simp only [h]

/-- Two instants that show a reading are a day apart at most, as their offsets are. -/
theorem close_of_shows (hd : r.daylight = some d) (regular : IsRegular r) (inside : x.Inside 259200)
    (below : r.BelowDay) (ha : a + offsetAt r a = x.timestamp) (hb : b + offsetAt r b = x.timestamp) :
    b - a ≤ 86400 := by
  have gain := regular.gain d hd
  have nearA := offsetAt_natAbs below a
  have nearB := offsetAt_natAbs below b
  have atA := offsetAt_of_near hd regular inside (u := a) (by omega)
  have atB := offsetAt_of_near hd regular inside (u := b) (by omega)
  unfold ZoneRule.gain at gain
  split at atA <;> split at atB <;> omega

/-- If two instants show a reading, each fold finds its own one: the clock changes between the two,
so it does not change within a day of them. -/
theorem search_of_two (regular : IsRegular r) (inside : x.Inside 259200) (below : r.BelowDay) (less : a < b)
    (ha : (clock r).Shows x.timestamp a) (hb : (clock r).Shows x.timestamp b) :
    search (offsetAt r) .first x.timestamp = a ∧ search (offsetAt r) .second x.timestamp = b := by
  rw [shows_iff] at ha hb
  have nearA := offsetAt_natAbs below a
  have nearB := offsetAt_natAbs below b
  cases hd : r.daylight with
  | none =>
    rw [offsetAt_eq, clock_of_none hd] at ha hb
    omega
  | some d =>
    obtain ⟨lo, hi⟩ := reckoned_bounds x.inCalendar_timestamp
    have close := close_of_shows hd regular inside below ha hb
    -- the two instants have different offsets, so one of them is in season and the other is not
    have changes : ¬ ((seasons r d).InForce (reckoned x.timestamp) a ↔
        (seasons r d).InForce (reckoned x.timestamp) b) := by
      intro h
      have := offsetAt_eq_of_season hd regular inside (by omega) (by omega) h
      omega
    refine search_twice less close ha hb (fun u => ?_) (fun u left right => ?_) fun u left right => ?_
    · obtain ⟨p, q, two⟩ := offsetAt_or r
      have := two u; have := two a; have := two b
      omega
    · apply offsetAt_eq_of_season hd regular inside (by omega) (by omega)
      exact Seasons.inForce_before (regular.seasons d hd) (by decide) lo hi less close changes left right
    · apply offsetAt_eq_of_season hd regular inside (by omega) (by omega)
      exact Seasons.inForce_after (regular.seasons d hd) (by decide) lo hi less close changes left right

def ReadsHere (r : ZoneRule) (x : CivilDateTime) (m : ZonedDateTime) : Prop :=
  m.Reads x ∧ (clock r).Shows x.timestamp m.utc.timestamp ∧ ∃ o, m.state = .system o

theorem readsHere_of_shows {m : ZonedDateTime} {o : Offset} (shows : (clock r).Shows x.timestamp u)
    (at_ : u = x.timestamp - o.seconds) (reads : m.Reads x) (state : m.state = .system o) : ReadsHere r x m := by
  refine ⟨reads, ?_, o, state⟩
  rw [reads.timestamp_eq state]
  show (clock r).Shows _ (_ - o.seconds)
  rwa [← at_]

theorem candidates_system_of_ok {world : World} {res : Resolution Offset}
    (h : (candidates world.system x).result = .ok res) :
    (Zone.system.candidates world x).result = .ok (res.map .system) := Traced.result_bind_of_ok h

theorem candidates_system_of_error {world : World} {e : Fault}
    (h : (candidates world.system x).result = .error e) : (Zone.system.candidates world x).result = .error e := by
  show (candidates world.system x >>= _).result = _
  rw [Traced.bind_of_error h]

/-- The offset at an instant near a reading. -/
theorem exists_offset? (below : r.BelowDay) (inside : x.Inside 259200) (near : (u - x.timestamp).natAbs < 172800) :
    ∃ p, offset? r u = some p ∧ p.seconds = offsetAt r u := by
  have := offsetAt_natAbs below u
  refine ⟨⟨offsetAt r u, by omega, by omega⟩, offset?_eq_some.mpr ⟨rfl, ?_⟩, rfl⟩
  exact inCalendar_of_inside inside (show (u + offsetAt r u - _).natAbs < 259200 by omega)

/-- A reading is taken to UTC by the offset at the instant that the search finds. -/
theorem utcOf_of_inside (below : r.BelowDay) (inside : x.Inside 259200) (f : Fold) :
    utcOf r f x.timestamp = some (x.timestamp - offsetAt r (search (offsetAt r) f x.timestamp)) := by
  obtain ⟨u, hu⟩ := exists_instantOf (f := f) (fun v => inCalendar_of_inside inside) (offsetAt_natAbs below)
  have found := instantOf_eq_search hu
  have near := offsetAt_natAbs below u
  subst found
  exact utcOf_eq_some.mpr ⟨inCalendar_of_inside inside (by omega), _, hu, near, rfl⟩

/-- A reading is taken for the instant that the search finds, which shows it, and asked for the offset
there. -/
structure Found (r : ZoneRule) (x : CivilDateTime) (f : Fold) (u : Int) (o : Offset) : Prop where
  searched : search (offsetAt r) f x.timestamp = u
  taken : utcOf r f x.timestamp = some u
  offset : offset? r u = some o
  shows : (clock r).Shows x.timestamp u

theorem Found.eq_sub {f : Fold} {o : Offset} (h : Found r x f u o) : u = x.timestamp - o.seconds := by
  have shows := shows_iff.mp h.shows
  have seconds := (offset?_eq_some.mp h.offset).1
  omega

theorem exists_found (below : r.BelowDay) (inside : x.Inside 259200)
    (h : ∃ v, (clock r).Shows x.timestamp v) (f : Fold) : ∃ u o, Found r x f u o := by
  obtain ⟨p, q, two⟩ := offsetAt_or r
  obtain ⟨v, hv⟩ := h
  have shown := (search_shows two f x.timestamp).resolve_right fun none => none v (shows_iff.mp hv)
  have taken := utcOf_of_inside below inside f
  have near := offsetAt_natAbs below (search (offsetAt r) f x.timestamp)
  obtain ⟨o, ho, -⟩ := exists_offset? below inside (u := search (offsetAt r) f x.timestamp) (by omega)
  refine ⟨_, o, rfl, ?_, ho, shows_iff.mpr shown⟩
  rw [taken]
  congr 1
  omega

/-- The instants found for the two folds are all at which a reading is shown, the earlier one first. -/
theorem shows_iff_found (regular : IsRegular r) (inside : x.Inside 259200) (below : r.BelowDay) {p q : Offset}
    (first : Found r x .first a p) (second : Found r x .second b q) :
    a ≤ b ∧ ∀ t, (clock r).Shows x.timestamp t ↔ t = a ∨ t = b := by
  have earliest := first.searched
  have latest := second.searched
  refine ⟨?_, fun t => ⟨fun h => ?_, fun h => ?_⟩⟩
  · by_cases more : b < a
    · have := search_of_two regular inside below more second.shows first.shows
      omega
    · omega
  · -- a third instant would make a pair with one of the two, and each fold would find its own of that pair
    rcases Int.lt_trichotomy t a with less | eq | more
    · have := search_of_two regular inside below less h first.shows
      omega
    · exact .inl eq
    · have := search_of_two regular inside below more first.shows h
      omega
  · rcases h with rfl | rfl
    · exact first.shows
    · exact second.shows

/-- A reading that is shown resolves to the instants at which it is. -/
theorem exhausts_of_found (w : World) (regular : IsRegular w.system) (below : w.system.BelowDay)
    (inside : x.Inside 259200) {p q : Offset} (first : Found w.system x .first a p)
    (second : Found w.system x .second b q) :
    Exhausts ((clock w.system).Shows x.timestamp) (ReadsHere w.system x) (Zone.system.resolve w x).result := by
  have near (o : Offset) : InCalendar (x.timestamp - o.seconds) := by
    have lo := o.neg_day_lt; have hi := o.lt_day
    exact inCalendar_of_inside inside (by omega)
  have atA := first.eq_sub; have atB := second.eq_sub
  obtain ⟨le, all⟩ := shows_iff_found regular inside below first second
  have cand := candidates_eq_ok.mpr ⟨a, p, b, q, first.taken, first.offset, by omega, second.taken,
    second.offset, rfl⟩
  by_cases same : a = b
  · rw [if_pos same] at cand
    refine Zone.exhausts_of_single (candidates_system_of_ok cand) (near p)
      (fun m => readsHere_of_shows first.shows atA) fun t => ?_
    show _ ↔ t = _ - p.seconds
    rw [← atA, all t, ← same, or_self]
  · rw [if_neg same] at cand
    refine Zone.exhausts_of_ambiguous (candidates_system_of_ok cand) (near p) (near q)
      (by show q.seconds < p.seconds; omega) (fun m => readsHere_of_shows first.shows atA)
      (fun m => readsHere_of_shows second.shows atB) fun t => ?_
    show _ ↔ t = _ - p.seconds ∨ t = _ - q.seconds
    rw [← atA, ← atB]
    exact all t

/-- A reading that is never shown does not exist. -/
theorem resolve_of_absent (w : World) (below : w.system.BelowDay) (inside : x.Inside 259200)
    (absent : ∀ v, ¬ (clock w.system).Shows x.timestamp v) :
    (Zone.system.resolve w x).result = .error (.failure .invalidDateTime) := by
  have taken := utcOf_of_inside below inside .first
  have near := offsetAt_natAbs below (search (offsetAt w.system) .first x.timestamp)
  generalize offsetAt w.system (search (offsetAt w.system) .first x.timestamp) = offset at taken near
  obtain ⟨o, ho, seconds⟩ := exists_offset? below inside (u := x.timestamp - offset) (by omega)
  have other := absent (x.timestamp - offset)
  rw [shows_iff, ← seconds] at other
  exact Zone.resolve_of_error (candidates_system_of_error (candidates_of_not_shows taken ho other))

/-- A reading of the system's clock resolves to the instants at which it is shown. -/
theorem resolve_exhausts (w : World) (regular : IsRegular w.system) (below : w.system.BelowDay)
    (inside : x.Inside 259200) :
    Exhausts ((clock w.system).Shows x.timestamp) (ReadsHere w.system x) (Zone.system.resolve w x).result := by
  by_cases some : ∃ v, (clock w.system).Shows x.timestamp v
  · obtain ⟨a, p, first⟩ := exists_found below inside some .first
    obtain ⟨b, q, second⟩ := exists_found below inside some .second
    exact exhausts_of_found w regular below inside first second
  · have absent (v : Int) : ¬ (clock w.system).Shows x.timestamp v := fun h => some ⟨v, h⟩
    rw [resolve_of_absent w below inside absent]
    exact .skipped absent

end CivilTime.System
