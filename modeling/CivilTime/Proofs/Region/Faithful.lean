/-
  CivilTime.Proofs.Region.Faithful — when a region's answers agree with its clocks.

  A region is asked from two sides. The lookup by a second of UTC says which local time is in force
  (`RegionData.clock`); the lookup by a reading guesses at it, once for each fold. The two are
  separate searches. Records are faithful (`RegionData.Faithful`) if the guesses are right: for
  every reading they name the seconds at which it is shown, or one of them that does not show it
  when there is none; and the reading of a second, with its fold, leads back to its local time.

  Of faithful records three things follow whatever they hold:
  (1) `resolve_exhausts`: a reading resolves to the seconds at which it is shown.
  (2) `isRegion_of_offsetOfUtc`: a moment of UTC has the state of the local time in force.
  (3) `offset_of_candidates`: a moment found for a reading has the same offset when it is asked for
  from UTC.
-/

import CivilTime.Proofs.Timeline

namespace CivilTime

open CivilDateTime (InCalendar)

/-! ## The lookups -/

namespace Region

/-- The offset that a kind of local time has in a region keeps its seconds and its name. -/
theorem offsetOf_eq_ok {r : Region} {t : LocalType} {o : RegionOffset} :
    r.offsetOf t = .ok o ↔ o.offset.seconds = t.offset ∧ o.key = r.key ∧ o.abbreviation = some t.name := by
  unfold offsetOf
  split
  · rename_i p hp
    rw [← Offset.ofSeconds?_eq_some.mp hp, ← Offset.ext_iff, Except.ok.injEq]
    constructor
    · intro h
      cases h; exact ⟨rfl, rfl, rfl⟩
    · intro h
      obtain ⟨q, key, name⟩ := o
      obtain ⟨rfl, rfl, rfl⟩ := h
      rfl
  · rename_i none
    constructor
    · intro h; cases h
    · intro h
      obtain ⟨h, -⟩ := h
      rw [Offset.ofSeconds?_eq_some.mpr h] at none
      cases none

theorem offsetOf_congr {r : Region} {a b : LocalType} (h : a.Alike b) : r.offsetOf a = r.offsetOf b := by
  unfold offsetOf; rw [h.1, h.2]

theorem exists_offsetOf (r : Region) {t : LocalType} (h : t.BelowDay) : ∃ o, r.offsetOf t = .ok o :=
  ⟨⟨⟨t.offset, h.1, h.2⟩, r.key, some t.name⟩, offsetOf_eq_ok.mpr ⟨rfl, rfl, rfl⟩⟩

theorem offsetOf_of_not_belowDay (r : Region) {t : LocalType} (above : ¬ t.BelowDay) :
    r.offsetOf t = .error .offsetTooLarge := by
  have none : Offset.ofSeconds? t.offset = none := dif_neg above
  simp only [offsetOf, none]

theorem isRegion_of_offsetOf {r : Region} {t : LocalType} {o : RegionOffset} (h : r.offsetOf t = .ok o) :
    (ZoneState.region o).IsRegion r.key t := by
  obtain ⟨p, key, name⟩ := o
  obtain ⟨seconds, rfl, rfl⟩ := offsetOf_eq_ok.mp h
  exact ⟨p, rfl, seconds⟩

end Region

def RegionData.clock (d : RegionData) : Timeline := fun t => (d.ofUtc t).1

namespace Region

theorem shown_eq_ok {r : Region} {t w : Int} {f : Fold} :
    r.shown t = .ok (w, f) ↔ InCalendar w ∧ r.data.clock.Shows w t ∧ f = (r.data.ofUtc t).2 := by
  simp only [shown, Timeline.Shows, RegionData.clock]
  constructor
  · intro h
    split at h
    · cases h; exact ⟨‹_›, rfl, rfl⟩
    · cases h
  · intro h
    obtain ⟨inside, rfl, rfl⟩ := h
    rw [if_pos inside]

theorem shown_eq_error {r : Region} {t : Int} {e : Failure} (h : r.shown t = .error e) :
    e = .invalidDateTime ∧ ¬ InCalendar (t + (r.data.clock t).offset) := by
  simp only [shown] at h
  split at h
  · cases h
  · cases h; exact ⟨rfl, ‹_›⟩

/-- The reading of the local time in force is in the calendar, or there is no answer. -/
theorem offsetOfUtc_eq (r : Region) (x : CivilDateTime) : (r.offsetOfUtc x).result =
    if InCalendar (x.timestamp + (r.data.clock x.timestamp).offset) then
      r.offsetOf (r.data.ofLocal (x.timestamp + (r.data.clock x.timestamp).offset) (r.data.ofUtc x.timestamp).2)
    else .error (.failure .invalidDateTime) := by
  by_cases inside : InCalendar (x.timestamp + (r.data.clock x.timestamp).offset)
  · have found : (Traced.of (r.shown x.timestamp)).result = .ok (_, (r.data.ofUtc x.timestamp).2) :=
      Traced.of_result_eq_ok.mpr (shown_eq_ok.mpr ⟨inside, rfl, rfl⟩)
    rw [if_pos inside]
    refine (Traced.result_bind_of_ok found).trans ?_
    dsimp only
    generalize r.data.ofLocal _ _ = t
    cases r.offsetOf t <;> rfl
  · have none : r.shown x.timestamp = .error .invalidDateTime := if_neg inside
    rw [if_neg inside]
    unfold offsetOfUtc
    rw [none]
    rfl

/-- A moment of UTC is shown as a reading of the calendar, and this reading with its fold decides. -/
theorem offsetOfUtc_eq_ok {r : Region} {x : CivilDateTime} {o : RegionOffset} :
    (r.offsetOfUtc x).result = .ok o ↔
      InCalendar (x.timestamp + (r.data.clock x.timestamp).offset) ∧
      r.offsetOf (r.data.ofLocal (x.timestamp + (r.data.clock x.timestamp).offset)
        (r.data.ofUtc x.timestamp).2) = .ok o := by
  rw [offsetOfUtc_eq]
  by_cases inside : InCalendar (x.timestamp + (r.data.clock x.timestamp).offset)
  · rw [if_pos inside]
    exact ⟨fun h => ⟨inside, h⟩, fun h => h.2⟩
  · rw [if_neg inside]
    constructor
    · intro h
      cases h
    · intro h
      exact absurd h.1 inside

/-- Where the reading and its fold lead back to the local time in force the answer is its offset. -/
theorem offsetOfUtc_of_inForce {r : Region} {x : CivilDateTime} {t : LocalType}
    (alike : (r.data.clock x.timestamp).Alike t)
    (reread : InCalendar (x.timestamp + (r.data.clock x.timestamp).offset) →
      (r.data.ofLocal (x.timestamp + (r.data.clock x.timestamp).offset) (r.data.ofUtc x.timestamp).2).Alike
        (r.data.clock x.timestamp)) :
    (r.offsetOfUtc x).result =
      if InCalendar (x.timestamp + t.offset) then r.offsetOf t else .error (.failure .invalidDateTime) := by
  rw [offsetOfUtc_eq]
  rw [alike.1] at reread ⊢
  by_cases inside : InCalendar (x.timestamp + t.offset)
  · rw [if_pos inside, if_pos inside, offsetOf_congr ((reread inside).trans alike)]
  · rw [if_neg inside, if_neg inside]

/-- A reading has candidates when the one for the first fold shows it. -/
theorem candidates_eq_ok {r : Region} {x : CivilDateTime} {res : Resolution RegionOffset} :
    (r.candidates x).result = .ok res ↔
      ∃ early late, r.offsetOf (r.data.ofLocal x.timestamp .first) = .ok early ∧
        r.offsetOf (r.data.ofLocal x.timestamp .second) = .ok late ∧
        InCalendar (x.timestamp - early.offset.seconds) ∧
        r.data.clock.Shows x.timestamp (x.timestamp - early.offset.seconds) ∧
        res = if early.offset = late.offset then .single early else .ambiguous early late := by
  simp only [candidates, Traced.result_bind_eq_ok, Traced.lift_result_eq_ok]
  constructor
  · intro h
    obtain ⟨early, he, h⟩ := h
    split at h
    · cases h
    rename_i inside
    obtain ⟨⟨back, f⟩, shown, h⟩ := Traced.result_bind_eq_ok.mp h
    obtain ⟨-, shows, -⟩ := shown_eq_ok.mp (Traced.of_result_eq_ok.mp shown)
    simp only at h
    split at h
    · cases h
    rename_i same
    obtain ⟨late, hl, h⟩ := Traced.result_bind_eq_ok.mp h
    refine ⟨early, late, he, Traced.lift_result_eq_ok.mp hl, Classical.not_not.mp inside, ?_, ?_⟩
    · rwa [Classical.not_not.mp same] at shows
    · split at h <;> cases h <;> simp_all
  · intro h
    obtain ⟨early, late, he, hl, inside, shows, rfl⟩ := h
    refine ⟨early, he, ?_⟩
    rw [if_neg (not_not_intro inside), Traced.result_bind_of_ok (a := (x.timestamp, (r.data.ofUtc _).2))
      (Traced.of_result_eq_ok.mpr (shown_eq_ok.mpr ⟨x.inCalendar_timestamp, shows, rfl⟩))]
    simp only [ne_eq, not_true_eq_false, if_false]
    rw [Traced.result_bind_of_ok (Traced.lift_result_eq_ok.mpr hl)]
    split <;> rfl

theorem key_of_candidates {r : Region} {x : CivilDateTime} {res : Resolution RegionOffset}
    (h : (r.candidates x).result = .ok res) {o : RegionOffset} (ho : o ∈ res.toList) : o.key = r.key := by
  obtain ⟨early, late, he, hl, -, -, rfl⟩ := candidates_eq_ok.mp h
  have keyE := (offsetOf_eq_ok.mp he).2.1; have keyL := (offsetOf_eq_ok.mp hl).2.1
  split at ho <;> simp only [Resolution.toList, List.mem_cons, List.not_mem_nil, or_false] at ho
  · subst ho; exact keyE
  · rcases ho with rfl | rfl
    · exact keyE
    · exact keyL

/-- A reading that the first fold's candidate does not show does not exist. -/
theorem candidates_of_not_shows {r : Region} {x : CivilDateTime} {early : RegionOffset}
    (he : r.offsetOf (r.data.ofLocal x.timestamp .first) = .ok early)
    (h : ¬ r.data.clock.Shows x.timestamp (x.timestamp - early.offset.seconds)) :
    (r.candidates x).result = .error (.failure .invalidDateTime) := by
  unfold candidates
  rw [Traced.result_bind_of_ok (Traced.lift_result_eq_ok.mpr he)]
  dsimp only
  split
  · rfl
  cases shown : r.shown (x.timestamp - early.offset.seconds) with
  | error e =>
    obtain ⟨rfl, -⟩ := shown_eq_error shown
    rw [Traced.bind_of_error (e := .failure .invalidDateTime) rfl]
  | ok back =>
    obtain ⟨-, shows, -⟩ := shown_eq_ok.mp shown
    have other : back.1 ≠ x.timestamp := fun e => h (e ▸ shows)
    rw [Traced.result_bind_of_ok (a := back) rfl]
    simp only [ne_eq, other, not_false_eq_true, if_true]
    rfl

end Region

namespace Zone

variable {w : World} {x : CivilDateTime} {r : Region}

theorem candidates_region_of_ok {res : Resolution RegionOffset} (h : (r.candidates x).result = .ok res) :
    ((region r).candidates w x).result = .ok (res.map .region) := Traced.result_bind_of_ok h

theorem candidates_region_of_error {e : Fault} (h : (r.candidates x).result = .error e) :
    ((region r).candidates w x).result = .error e := by
  show (r.candidates x >>= _).result = _
  rw [Traced.bind_of_error h]

end Zone

/-! ## Faithful records -/

/-- A guess at the local time of a reading is right if that local time is in force at the second which
it makes of the reading. Seconds outside the calendar are never looked up. -/
def Timeline.Confirms (c : Timeline) (w : Int) (guess : LocalType) : Prop :=
  InCalendar (w - guess.offset) → (c (w - guess.offset)).Alike guess

/-- What the guesses for both folds are worth: they name the one second at which the reading is
shown, or there is none, or they name two seconds, the earlier one first. -/
inductive Sighting (c : Timeline) (w : Int) (early late : LocalType) : Prop
  | once : early.Alike late → (∀ t, InCalendar t → c.Shows w t → t = w - early.offset) →
      c.Confirms w early → Sighting c w early late
  | never : (∀ t, InCalendar t → ¬ c.Shows w t) → Sighting c w early late
  | twice : late.offset < early.offset →
      (∀ t, InCalendar t → c.Shows w t → t = w - early.offset ∨ t = w - late.offset) →
      c.Confirms w early → c.Confirms w late → Sighting c w early late

namespace RegionData

structure Faithful (d : RegionData) : Prop where
  sighting : ∀ w, InCalendar w → Sighting d.clock w (d.ofLocal w .first) (d.ofLocal w .second)
  reread : ∀ t, InCalendar t → InCalendar (t + (d.clock t).offset) →
    (d.ofLocal (t + (d.clock t).offset) (d.ofUtc t).2).Alike (d.clock t)

structure FindsBelowDay (d : RegionData) : Prop where
  clock : ∀ t, (d.clock t).BelowDay
  ofLocal : ∀ w f, (d.ofLocal w f).BelowDay

end RegionData

theorem Timeline.shows_of_confirms {c : Timeline} {w : Int} {guess : LocalType} (h : c.Confirms w guess)
    (inside : InCalendar (w - guess.offset)) : c.Shows w (w - guess.offset) := by
  have := (h inside).1
  unfold Shows; omega

section Sightings

variable {c : Timeline} {w t : Int} {early late : LocalType} (shown : c.Shows w t → InCalendar t)

include shown

theorem Timeline.shows_iff_of_once (only : ∀ t, InCalendar t → c.Shows w t → t = w - early.offset)
    (confirms : c.Confirms w early) (inside : InCalendar (w - early.offset)) :
    c.Shows w t ↔ t = w - early.offset := by
  constructor
  · intro h
    exact only t (shown h) h
  · rintro rfl
    exact shows_of_confirms confirms inside

theorem Timeline.shows_iff_of_twice
    (only : ∀ t, InCalendar t → c.Shows w t → t = w - early.offset ∨ t = w - late.offset)
    (confirmsE : c.Confirms w early) (confirmsL : c.Confirms w late) (insideE : InCalendar (w - early.offset))
    (insideL : InCalendar (w - late.offset)) : c.Shows w t ↔ t = w - early.offset ∨ t = w - late.offset := by
  constructor
  · intro h
    exact only t (shown h) h
  · rintro (rfl | rfl)
    · exact shows_of_confirms confirmsE insideE
    · exact shows_of_confirms confirmsL insideL

end Sightings

namespace Region

variable {r : Region} {x : CivilDateTime}

/-- A moment that a confirmed candidate makes of a reading shows it in the state of the region. -/
theorem readsIn_of_confirms {t : LocalType} {o : RegionOffset} {m : ZonedDateTime} (ho : r.offsetOf t = .ok o)
    (inside : InCalendar (x.timestamp - t.offset)) (h : r.data.clock.Confirms x.timestamp t)
    (reads : m.Reads x) (state : m.state = .region o) : m.ReadsIn r.data.clock r.key x := by
  have seconds : o.offset.seconds = t.offset := (offsetOf_eq_ok.mp ho).1
  have at_ : m.utc.timestamp = x.timestamp - t.offset := by
    have := reads.timestamp_eq state
    rw [this]
    show _ - o.offset.seconds = _
    rw [seconds]
  refine ⟨reads, ?_, ?_⟩
  · rw [at_]; exact Timeline.shows_of_confirms h inside
  · rw [at_, state]; exact (isRegion_of_offsetOf ho).congr (h inside).symm

/-- A reading that the first fold's candidate shows has the candidates of both folds. -/
theorem candidates_of_confirms {a b : LocalType} {oe ol : RegionOffset} (he : r.offsetOf a = .ok oe)
    (hl : r.offsetOf b = .ok ol) (ha : r.data.ofLocal x.timestamp .first = a)
    (hb : r.data.ofLocal x.timestamp .second = b) (inside : InCalendar (x.timestamp - a.offset))
    (confirms : r.data.clock.Confirms x.timestamp a) :
    (r.candidates x).result = .ok (if oe.offset = ol.offset then .single oe else .ambiguous oe ol) := by
  subst ha hb
  have seconds := (offsetOf_eq_ok.mp he).1
  have shows := Timeline.shows_of_confirms confirms inside
  rw [← seconds] at inside shows
  exact candidates_eq_ok.mpr ⟨oe, ol, he, hl, inside, shows, rfl⟩

/-- At a reading a day inside the calendar no offset of less than a day leads out of it. -/
theorem inCalendar_of_belowDay {o : LocalType} (inside : x.Inside 86400) (below : o.BelowDay) :
    InCalendar (x.timestamp - o.offset) := by
  obtain ⟨left, right⟩ := inside
  obtain ⟨lo, hi⟩ := below
  unfold InCalendar; omega

theorem inCalendar_of_shows {c : Timeline} {t : Int} (inside : x.Inside 86400) (below : (c t).BelowDay)
    (shows : c.Shows x.timestamp t) : InCalendar t := by
  have near := inCalendar_of_belowDay inside below
  unfold Timeline.Shows at shows
  rwa [show t = x.timestamp - (c t).offset by omega]

/-- (1) In faithful records a reading resolves to the seconds at which it is shown. -/
theorem resolve_exhausts (w : World) (faithful : r.data.Faithful) (bounded : r.data.FindsBelowDay)
    (inside : x.Inside 86400) :
    Exhausts (r.data.clock.Shows x.timestamp) (·.ReadsIn r.data.clock r.key x)
      ((Zone.region r).resolve w x).result := by
  have shown {t : Int} (h : r.data.clock.Shows x.timestamp t) : InCalendar t :=
    inCalendar_of_shows inside (bounded.clock t) h
  have belowE := bounded.ofLocal x.timestamp .first
  have belowL := bounded.ofLocal x.timestamp .second
  have sighting := faithful.sighting x.timestamp x.inCalendar_timestamp
  generalize ha : r.data.ofLocal x.timestamp .first = a at belowE sighting
  generalize hb : r.data.ofLocal x.timestamp .second = b at belowL sighting
  have early := inCalendar_of_belowDay inside belowE
  have late := inCalendar_of_belowDay inside belowL
  obtain ⟨oe, he⟩ := exists_offsetOf r belowE
  obtain ⟨ol, hl⟩ := exists_offsetOf r belowL
  have se := (offsetOf_eq_ok.mp he).1
  have sl := (offsetOf_eq_ok.mp hl).1
  -- both guesses are offsets, and their seconds are in the calendar: the kind of sighting decides the rest
  cases sighting with
  | once same only confirms =>
    have cand := candidates_of_confirms he hl ha hb early confirms
    rw [if_pos (Offset.ext (by rw [se, sl, same.1]))] at cand
    refine Zone.exhausts_of_single (Zone.candidates_region_of_ok cand) (se ▸ early)
      (fun m => readsIn_of_confirms he early confirms) fun t => ?_
    show _ ↔ t = _ - oe.offset.seconds
    rw [se]
    exact Timeline.shows_iff_of_once shown only confirms early
  | never none =>
    have absent (t : Int) : ¬ r.data.clock.Shows x.timestamp t := fun h => none t (shown h) h
    subst ha
    rw [Zone.resolve_of_error (Zone.candidates_region_of_error (candidates_of_not_shows he (absent _)))]
    exact .skipped absent
  | twice less only confirmsE confirmsL =>
    have cand := candidates_of_confirms he hl ha hb early confirmsE
    rw [if_neg (fun e => by rw [Offset.ext_iff, se, sl] at e; omega)] at cand
    refine Zone.exhausts_of_ambiguous (Zone.candidates_region_of_ok cand) (se ▸ early) (sl ▸ late)
      (by show ol.offset.seconds < oe.offset.seconds; omega) (fun m => readsIn_of_confirms he early confirmsE)
      (fun m => readsIn_of_confirms hl late confirmsL) fun t => ?_
    show _ ↔ t = _ - oe.offset.seconds ∨ t = _ - ol.offset.seconds
    rw [se, sl]
    exact Timeline.shows_iff_of_twice shown only confirmsE confirmsL early late

/-- (2) In faithful records a moment of UTC has the state of the local time in force. -/
theorem isRegion_of_offsetOfUtc (faithful : r.data.Faithful) {o : RegionOffset}
    (h : (r.offsetOfUtc x).result = .ok o) :
    (ZoneState.region o).IsRegion r.key (r.data.clock x.timestamp) := by
  obtain ⟨inside, ho⟩ := offsetOfUtc_eq_ok.mp h
  exact (isRegion_of_offsetOf ho).congr (faithful.reread _ x.inCalendar_timestamp inside)

/-- A moment of UTC at which a kind of local time is in force has its offset. -/
theorem offsetOfUtc_of_alike (faithful : r.data.Faithful) {t : LocalType} {o : RegionOffset}
    (ho : r.offsetOf t = .ok o) (alike : (r.data.clock x.timestamp).Alike t)
    (inside : InCalendar (x.timestamp + t.offset)) : (r.offsetOfUtc x).result = .ok o := by
  rw [offsetOfUtc_of_inForce alike (faithful.reread _ x.inCalendar_timestamp), if_pos inside, ho]

/-- (3) In faithful records an offset found for a reading is that of the moment that the reading is by it. -/
theorem offset_of_candidates (faithful : r.data.Faithful) {res : Resolution RegionOffset}
    (h : (r.candidates x).result = .ok res) {o : RegionOffset} (ho : o ∈ res.toList) {u : CivilDateTime}
    (at_ : u.timestamp = x.timestamp - o.offset.seconds) : (r.offsetOfUtc u).result = .ok o := by
  obtain ⟨early, late, he, hl, inside, shows, rfl⟩ := candidates_eq_ok.mp h
  have se := (offsetOf_eq_ok.mp he).1; have sl := (offsetOf_eq_ok.mp hl).1
  have reading {t : LocalType} (seconds : o.offset.seconds = t.offset) : InCalendar (u.timestamp + t.offset) := by
    rw [show u.timestamp + t.offset = x.timestamp by omega]
    exact x.inCalendar_timestamp
  have confirmed {t : LocalType} (seconds : o.offset.seconds = t.offset)
      (confirms : r.data.clock.Confirms x.timestamp t) : (r.data.clock u.timestamp).Alike t := by
    rw [show u.timestamp = x.timestamp - t.offset by omega]
    refine confirms ?_
    rw [show x.timestamp - t.offset = u.timestamp by omega]
    exact u.inCalendar_timestamp
  -- an offset that was found is a guess that the sighting confirms
  cases faithful.sighting x.timestamp x.inCalendar_timestamp with
  | once same only confirms =>
    rw [if_pos (Offset.ext (by rw [se, sl, same.1]))] at ho
    rw [List.mem_singleton.mp ho] at at_ reading confirmed ⊢
    exact offsetOfUtc_of_alike faithful he (confirmed se confirms) (reading se)
  | never none => exact absurd shows (none _ inside)
  | twice less only confirmsE confirmsL =>
    have ne : early.offset ≠ late.offset := fun e => by
      rw [Offset.ext_iff, se, sl] at e; omega
    rw [if_neg ne] at ho
    simp only [Resolution.toList, List.mem_cons, List.not_mem_nil, or_false] at ho
    rcases ho with rfl | rfl
    · exact offsetOfUtc_of_alike faithful he (confirmed se confirmsE) (reading se)
    · exact offsetOfUtc_of_alike faithful hl (confirmed sl confirmsL) (reading sl)

theorem exists_offsetOfUtc (faithful : r.data.Faithful) (below : (r.data.clock x.timestamp).BelowDay)
    (inside : InCalendar (x.timestamp + (r.data.clock x.timestamp).offset)) :
    ∃ o, (r.offsetOfUtc x).result = .ok o := by
  obtain ⟨o, ho⟩ := exists_offsetOf r below
  exact ⟨o, offsetOfUtc_of_alike faithful ho (.refl _) inside⟩

end Region

end CivilTime
