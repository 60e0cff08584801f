/-
  CivilTime.Proofs.Region.Ambiguity — what an ambiguous answer of a region is worth.

  A reading is tried as one shown for the first time, and this trial has to come back from UTC. The
  trial for the second time only has to find another offset: it is not brought back, and the two
  moments are not compared. So of two moments found for a reading, whatever the records, the first
  shows it and the second is another one. That the second comes after the first and shows the
  reading too (`Genuine`) is known just when the trial that is left out would succeed, at a smaller
  offset (`genuine_iff`).

  In regular records it always would (`genuine_of_isRegular`). Where changes follow so closely that one
  window begins before the last has ended, the second trial may find the kind of local time after both of
  them, at a moment before either (`not_genuine_hasty`).
-/

import CivilTime.Proofs.Coherence

namespace CivilTime

open CivilDateTime (InCalendar)

structure Genuine (c : Timeline) (x : CivilDateTime) (a b : ZonedDateTime) : Prop where
  ordered : a.utc.timestamp < b.utc.timestamp
  first : c.Shows x.timestamp a.utc.timestamp
  second : c.Shows x.timestamp b.utc.timestamp

/-- Where the two moments found for a reading come from: the candidates for its two folds. -/
structure Region.Ambiguous (r : Region) (x : CivilDateTime) (a b : ZonedDateTime) (early late : RegionOffset) :
    Prop where
  candidates : (r.candidates x).result = .ok (.ambiguous early late)
  first : a.state = .region early ∧ a.Reads x
  second : b.state = .region late ∧ b.Reads x

namespace Region

variable {w : World} {r : Region} {x : CivilDateTime} {a b : ZonedDateTime}

theorem exists_ambiguous (h : ((Zone.region r).resolve w x).result = .ok (.ambiguous a b)) :
    ∃ early late, r.Ambiguous x a b early late := by
  obtain ⟨states, found, h⟩ := Traced.result_bind_eq_ok.mp h
  obtain ⟨offsets, candidates, made⟩ := Traced.result_bind_eq_ok.mp found
  cases made
  cases offsets with
  | single o =>
    obtain ⟨m, -, h⟩ := Traced.result_bind_eq_ok.mp h
    cases h
  | ambiguous early late =>
    obtain ⟨m, hm, h⟩ := Traced.result_bind_eq_ok.mp h
    obtain ⟨n, hn, h⟩ := Traced.result_bind_eq_ok.mp h
    cases h
    exact ⟨early, late, candidates, Zone.momentIn_eq_ok.mp hm, Zone.momentIn_eq_ok.mp hn⟩

namespace Ambiguous

variable {early late : RegionOffset} (h : r.Ambiguous x a b early late)

include h

/-- The offsets are those of the two folds, and differ. -/
theorem offsets : early.offset.seconds = (r.data.ofLocal x.timestamp .first).offset ∧
    late.offset.seconds = (r.data.ofLocal x.timestamp .second).offset ∧ early.offset.seconds ≠ late.offset.seconds := by
  obtain ⟨e, l, he, hl, -, -, out⟩ := candidates_eq_ok.mp h.candidates
  split at out
  · cases out
  · rename_i differ
    cases out
    exact ⟨(offsetOf_eq_ok.mp he).1, (offsetOf_eq_ok.mp hl).1, fun same => differ (Offset.ext same)⟩

theorem first_at : a.utc.timestamp = x.timestamp - (r.data.ofLocal x.timestamp .first).offset := by
  rw [h.first.2.timestamp_eq h.first.1, ← h.offsets.1]
  rfl

theorem second_at : b.utc.timestamp = x.timestamp - (r.data.ofLocal x.timestamp .second).offset := by
  rw [h.second.2.timestamp_eq h.second.1, ← h.offsets.2.1]
  rfl

/-- The first moment has come back from UTC. -/
theorem first_shows : r.data.clock.Shows x.timestamp a.utc.timestamp := by
  obtain ⟨e, l, -, -, -, shows, out⟩ := candidates_eq_ok.mp h.candidates
  split at out
  · cases out
  · cases out
    rw [h.first.2.timestamp_eq h.first.1]
    exact shows

/-- The second moment is as it should be just when its trial would come back from UTC as well, at a smaller
offset than the first one. -/
theorem genuine_iff : Genuine r.data.clock x a b ↔
    (r.data.ofLocal x.timestamp .second).offset < (r.data.ofLocal x.timestamp .first).offset ∧
      r.data.clock.Shows x.timestamp (x.timestamp - (r.data.ofLocal x.timestamp .second).offset) := by
  have first := h.first_at
  have second := h.second_at
  constructor
  · intro genuine
    have ordered := genuine.ordered
    rw [← second]
    exact ⟨by omega, genuine.second⟩
  · rintro ⟨less, shows⟩
    rw [← second] at shows
    exact ⟨by omega, h.first_shows, shows⟩

/-- Regular records that have two candidates for a reading are faithful. -/
theorem faithful (regular : r.data.IsRegular) : r.data.Faithful := by
  rcases regular with table | ⟨empty, regular⟩
  · exact table.faithful
  · obtain ⟨e, l, differ⟩ := h.offsets
    rw [RegionData.ofLocal_of_empty empty] at e l
    refine RegionData.faithful_of_rule empty regular ?_
    refine ZoneRule.belowDay_of_two (LocalType.belowDay_of_offset e) (LocalType.belowDay_of_offset l) ?_
    rw [← e, ← l]
    exact differ

/-- In regular records both moments show the reading, in order, and are made again from UTC. -/
theorem genuine_of_isRegular (w : World) (regular : r.data.IsRegular) :
    Genuine r.data.clock x a b ∧ ((Zone.region r).momentOfUtc w a.utc).result = .ok a ∧
      ((Zone.region r).momentOfUtc w b.utc).result = .ok b := by
  have faithful := h.faithful regular
  have first := h.first_at
  have second := h.second_at
  obtain ⟨e, l, differ⟩ := h.offsets
  have again {m : ZonedDateTime} {o : RegionOffset} (mem : o ∈ [early, late]) (hm : m.state = .region o ∧ m.Reads x) :
      ((Zone.region r).momentOfUtc w m.utc).result = .ok m := by
    obtain ⟨state, reads⟩ := hm
    have found := offset_of_candidates faithful h.candidates mem (reads.timestamp_eq state)
    exact Zone.momentOfUtc_eq_ok.mpr ⟨rfl, state ▸ Traced.result_bind_of_ok found⟩
  refine ⟨?_, again (by simp) h.first, again (by simp) h.second⟩
  cases faithful.sighting x.timestamp x.inCalendar_timestamp with
  | once same _ _ => exact absurd (e.trans (same.1.trans l.symm)) differ
  | never none => exact absurd h.first_shows (none _ a.utc.inCalendar_timestamp)
  | twice less _ _ confirms =>
    refine h.genuine_iff.mpr ⟨less, Timeline.shows_of_confirms confirms ?_⟩
    rw [← second]
    exact b.utc.inCalendar_timestamp

end Ambiguous

end Region

/-- Of two moments that a region has for a reading, whatever its records, the first shows the reading and the
second is another. Both show it, in order, just when the second would come back from UTC as the first has,
at a smaller offset; in regular records it always does. -/
theorem ambiguous_genuine_iff (w : World) (r : Region) (x : CivilDateTime) (a b : ZonedDateTime)
    (h : ((Zone.region r).resolve w x).result = .ok (.ambiguous a b)) :
    (a.Reads x ∧ b.Reads x ∧ a.utc.timestamp ≠ b.utc.timestamp ∧ r.data.clock.Shows x.timestamp a.utc.timestamp) ∧
    (Genuine r.data.clock x a b ↔
      (r.data.ofLocal x.timestamp .second).offset < (r.data.ofLocal x.timestamp .first).offset ∧
        r.data.clock.Shows x.timestamp (x.timestamp - (r.data.ofLocal x.timestamp .second).offset)) ∧
    (r.data.IsRegular → Genuine r.data.clock x a b ∧ ((Zone.region r).momentOfUtc w a.utc).result = .ok a ∧
      ((Zone.region r).momentOfUtc w b.utc).result = .ok b) := by
  obtain ⟨early, late, found⟩ := Region.exists_ambiguous h
  have first := found.first_at
  have second := found.second_at
  obtain ⟨e, l, differ⟩ := found.offsets
  exact ⟨⟨found.first.2, found.second.2, by omega, found.first_shows⟩, found.genuine_iff,
    found.genuine_of_isRegular w⟩

/-- Korean time, put back by half an hour on 2015-08-15, at midnight. -/
def pyongyang : Region where
  key := "Asia/Pyongyang"
  data :=
    { first := ⟨32400, false, "KST"⟩
      before := ⟨32400, false, "KST"⟩
      transitions := #[⟨1439564400, ⟨30600, false, "KST"⟩⟩]
      after := .fixed "KST" 30600 }

/-- A quarter to midnight, which was shown twice that day. -/
def lastQuarter : CivilDateTime where
  date := ⟨735824, by decide, by decide⟩
  time := { ClockTime.midnight with secondOfDay := 85500, second_nonneg := by decide, second_lt := by decide }

def lastQuarterFirst : ZonedDateTime where
  utc :=
    { lastQuarter with
      time := { ClockTime.midnight with secondOfDay := 53100, second_nonneg := by decide, second_lt := by decide } }
  state := .region ⟨⟨32400, by decide, by decide⟩, "Asia/Pyongyang", some "KST"⟩

def lastQuarterSecond : ZonedDateTime where
  utc :=
    { lastQuarter with
      time := { ClockTime.midnight with secondOfDay := 54900, second_nonneg := by decide, second_lt := by decide } }
  state := .region ⟨⟨30600, by decide, by decide⟩, "Asia/Pyongyang", some "KST"⟩

theorem genuine_lastQuarter :
    ((Zone.region pyongyang).resolve summerWorld lastQuarter).result =
        .ok (.ambiguous lastQuarterFirst lastQuarterSecond) ∧
      Genuine pyongyang.data.clock lastQuarter lastQuarterFirst lastQuarterSecond := by
  have resolved : ((Zone.region pyongyang).resolve summerWorld lastQuarter).result =
      .ok (.ambiguous lastQuarterFirst lastQuarterSecond) := rfl
  obtain ⟨-, iff, -⟩ := ambiguous_genuine_iff summerWorld pyongyang lastQuarter _ _ resolved
  exact ⟨resolved, iff.mpr ⟨by decide, by decide⟩⟩

/-- A region whose clocks were put back by an hour at the start of 1970, and half an hour later put forward by
two. -/
def hasty : Region where
  key := "Hasty/Change"
  data :=
    { first := ⟨0, false, "A"⟩
      before := ⟨0, false, "A"⟩
      transitions := #[⟨0, ⟨-3600, false, "B"⟩⟩, ⟨1800, ⟨3600, false, "C"⟩⟩]
      after := .fixed "C" 3600 }

/-- The reading 1969-12-31 23:43:20, on a clock that still shows UTC. -/
def beforeHaste : ZonedDateTime where
  utc :=
    { date := ⟨719162, by decide, by decide⟩
      time := { ClockTime.midnight with secondOfDay := 85400, second_nonneg := by decide, second_lt := by decide } }
  state := .region ⟨.zero, "Hasty/Change", some "A"⟩

def wellBeforeHaste : ZonedDateTime where
  utc :=
    { beforeHaste.utc with
      time := { ClockTime.midnight with secondOfDay := 81800, second_nonneg := by decide, second_lt := by decide } }
  state := .region ⟨.hourAhead, "Hasty/Change", some "C"⟩

/-- Changes half an hour apart can make a reading ambiguous that is shown once, and put a moment that does
not show it second although it comes before the one that does. -/
theorem not_genuine_hasty :
    (∃ types changes, RegionData.ofTable? types changes none = some hasty.data ∧ ∀ t ∈ types, t.BelowDay) ∧
      hasty.data.instant 0 < hasty.data.instant 1 ∧
      ((Zone.region hasty).resolve summerWorld beforeHaste.utc).result =
        .ok (.ambiguous beforeHaste wellBeforeHaste) ∧
      wellBeforeHaste.utc.timestamp < beforeHaste.utc.timestamp ∧
      ¬ hasty.data.clock.Shows beforeHaste.utc.timestamp wellBeforeHaste.utc.timestamp :=
  ⟨⟨[⟨0, false, "A"⟩, ⟨-3600, false, "B"⟩, ⟨3600, false, "C"⟩], [(0, 1), (1800, 2)], rfl, by decide⟩,
    by decide, rfl, by decide, by decide⟩

end CivilTime
