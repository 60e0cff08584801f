/-
  CivilTime.Proofs.Earliest — one value of a local reading, and all its values.

  A zone is asked for the moment of a reading or for all moments that the reading may be, and for a date
  or for all dates that it may be there. The one value is the earliest of all, or both are refused for
  the same reason, and the same notes are made on the way (`Traced.TakesEarliest`).

  Of dates this holds throughout. Of moments it fails where a reading has two candidates and the later
  one, which nobody asked for, would be a moment outside the calendar. The system's zone drops such a
  reading altogether (`System.inCalendar_of_candidates`); a region takes the second candidate without
  a look at the moment that it makes (`Region.LosesLater`). Main statement: that is the only
  exception (`takesEarliest_iff`), and it is met (`not_takesEarliest_lastNight`).
-/

import CivilTime.Proofs.Dates
import CivilTime.Proofs.Region.Bounds

namespace CivilTime

open CivilDateTime (InCalendar)

/-! ## How a step fails, and what it notes -/

namespace Traced

variable {α β : Type} {t : Traced α} {f : α → Traced β}

def FailsAsInvalid (t : Traced α) : Prop := ∀ f, t.result = .error f → f = .failure .invalidDateTime

theorem failsAsInvalid_of_ok {a : α} (h : t.result = .ok a) : t.FailsAsInvalid := by
  intro f hf
  rw [h] at hf
  cases hf

theorem failsAsInvalid_fail : (fail .invalidDateTime : Traced α).FailsAsInvalid := by
  intro f hf
  cases hf
  rfl

theorem failsAsInvalid_bind (h : t.FailsAsInvalid) (hf : ∀ a, (f a).FailsAsInvalid) : (t >>= f).FailsAsInvalid := by
  intro e he
  cases ht : t.result with
  | error e' =>
    rw [bind_of_error ht] at he
    cases he
    exact h _ ht
  | ok a =>
    rw [result_bind_of_ok ht] at he
    exact hf a e he

/-- Where the first step has a result, only the second can fail. -/
theorem failsAsInvalid_bind_of_ok {a : α} (h : t.result = .ok a) (hf : (f a).FailsAsInvalid) :
    (t >>= f).FailsAsInvalid := by
  intro e he
  rw [result_bind_of_ok h] at he
  exact hf e he

theorem failsAsInvalid_of {e : Except Failure α} (h : ∀ f, e = .error f → f = .invalidDateTime) :
    (of e).FailsAsInvalid := by
  intro f hf
  cases e with
  | ok a => cases hf
  | error e =>
    cases hf
    exact congrArg Fault.failure (h e rfl)

/-- One value is wanted where there may be several: it is the earliest of them all, it is missing only if
there is none, and nothing else is noted on the way. -/
structure TakesEarliest (one : Traced α) (all : Traced (Resolution α)) : Prop where
  result : one.result = all.result.map Resolution.earliest
  failure : all.FailsAsInvalid
  notes : one.notes = all.notes

end Traced

open Traced (failsAsInvalid_of_ok failsAsInvalid_fail failsAsInvalid_bind failsAsInvalid_bind_of_ok failsAsInvalid_of)

/-! ## How candidates are refused -/

theorem System.failsAsInvalid_orInvalid {α : Type} (a : Option α) : (Traced.of (orInvalid a)).FailsAsInvalid := by
  refine failsAsInvalid_of fun f hf => ?_
  cases a with
  | some a => cases hf
  | none => cases hf; rfl

theorem System.failsAsInvalid_candidates (r : ZoneRule) (x : CivilDateTime) : (candidates r x).FailsAsInvalid := by
  unfold candidates
  refine failsAsInvalid_bind (failsAsInvalid_orInvalid _) fun early => ?_
  refine failsAsInvalid_bind (failsAsInvalid_orInvalid _) fun p => ?_
  split
  · exact failsAsInvalid_bind (failsAsInvalid_of_ok rfl) fun _ => failsAsInvalid_fail
  · refine failsAsInvalid_bind (failsAsInvalid_orInvalid _) fun late => ?_
    refine failsAsInvalid_bind (failsAsInvalid_orInvalid _) fun q => ?_
    split
    · exact failsAsInvalid_of_ok rfl
    · exact failsAsInvalid_bind (failsAsInvalid_of_ok rfl) fun _ => failsAsInvalid_of_ok rfl

theorem Region.failsAsInvalid_candidates {r : Region} (bounded : r.data.FindsBelowDay) (x : CivilDateTime) :
    (r.candidates x).FailsAsInvalid := by
  have found (f : Fold) : ∃ o, (Traced.lift id (r.offsetOf (r.data.ofLocal x.timestamp f))).result = .ok o := by
    obtain ⟨o, ho⟩ := exists_offsetOf r (bounded.ofLocal x.timestamp f)
    exact ⟨o, Traced.lift_result_eq_ok.mpr ho⟩
  obtain ⟨early, he⟩ := found .first
  obtain ⟨late, hl⟩ := found .second
  unfold candidates
  refine failsAsInvalid_bind_of_ok he ?_
  dsimp only
  split
  · exact failsAsInvalid_fail
  · refine failsAsInvalid_bind (failsAsInvalid_of fun f hf => (shown_eq_error hf).1) fun back => ?_
    split
    · exact failsAsInvalid_bind (failsAsInvalid_of_ok rfl) fun _ => failsAsInvalid_fail
    · refine failsAsInvalid_bind_of_ok hl ?_
      split
      · exact failsAsInvalid_of_ok rfl
      · exact failsAsInvalid_bind (failsAsInvalid_of_ok rfl) fun _ => failsAsInvalid_of_ok rfl

namespace Zone

variable {w : World} {z : Zone} {x : CivilDateTime}

/-- The zone is one that the library defines, and a region among them has no offset of a day or more. -/
def BelowDay : Zone → Prop
  | utc | fixed _ | system => True
  | region r => r.data.BelowDay
  | custom => False

theorem failsAsInvalid_candidates (w : World) (below : z.BelowDay) (x : CivilDateTime) :
    (z.candidates w x).FailsAsInvalid := by
  cases z with
  | utc => exact failsAsInvalid_of_ok rfl
  | fixed o => exact failsAsInvalid_of_ok rfl
  | system =>
    exact failsAsInvalid_bind (System.failsAsInvalid_candidates _ x) fun _ => failsAsInvalid_of_ok rfl
  | region r =>
    exact failsAsInvalid_bind (Region.failsAsInvalid_candidates below.findsBelowDay x) fun _ => failsAsInvalid_of_ok rfl
  | custom => exact below.elim

/-! ## From candidates to moments -/

theorem failsAsInvalid_momentIn (x : CivilDateTime) (s : ZoneState) : (momentIn x s).FailsAsInvalid :=
  failsAsInvalid_bind (failsAsInvalid_of fun _ hf => (CivilDateTime.shift_eq_error_iff.mp hf).1)
    fun _ => failsAsInvalid_of_ok rfl

theorem notes_momentIn (x : CivilDateTime) (s : ZoneState) : (momentIn x s).notes = [] :=
  (Traced.notes_bind fun _ => rfl).trans (Traced.of_notes _)

theorem notes_momentOfLocal (w : World) (z : Zone) (x : CivilDateTime) :
    (z.momentOfLocal w x).notes = (z.candidates w x).notes :=
  (Traced.notes_bind fun s => notes_momentIn x s).trans (Traced.notes_bind fun _ => rfl)

theorem notes_resolve (w : World) (z : Zone) (x : CivilDateTime) : (z.resolve w x).notes = (z.candidates w x).notes := by
  refine Traced.notes_bind fun states => ?_
  cases states with
  | single s => exact (Traced.notes_bind fun _ => rfl).trans (notes_momentIn x s)
  | ambiguous s t =>
    refine (Traced.notes_bind fun _ => ?_).trans (notes_momentIn x s)
    exact (Traced.notes_bind fun _ => rfl).trans (notes_momentIn x t)

theorem failsAsInvalid_resolve (fails : (z.candidates w x).FailsAsInvalid) : (z.resolve w x).FailsAsInvalid := by
  refine failsAsInvalid_bind fails fun states => ?_
  cases states with
  | single s => exact failsAsInvalid_bind (failsAsInvalid_momentIn x s) fun _ => failsAsInvalid_of_ok rfl
  | ambiguous s t =>
    refine failsAsInvalid_bind (failsAsInvalid_momentIn x s) fun _ => ?_
    exact failsAsInvalid_bind (failsAsInvalid_momentIn x t) fun _ => failsAsInvalid_of_ok rfl

theorem momentIn_of_outside {s : ZoneState} (h : ¬ InCalendar (x.timestamp - s.offset.seconds)) :
    (momentIn x s).result = .error (.failure .invalidDateTime) := by
  cases made : (momentIn x s).result with
  | error f => rw [failsAsInvalid_momentIn x s f made]
  | ok m =>
    obtain ⟨state, reads⟩ := momentIn_eq_ok.mp made
    have inside := m.utc.inCalendar_timestamp
    rw [reads.timestamp_eq state] at inside
    exact absurd inside h

theorem momentOfLocal_of_error {e : Fault} (h : (z.candidates w x).result = .error e) :
    (z.momentOfLocal w x).result = .error e := by
  have state : (z.stateOfLocal w x).result = .error e := Traced.result_bind_of_error h
  exact Traced.result_bind_of_error state

theorem momentOfLocal_of_candidates {res : Resolution ZoneState} (h : (z.candidates w x).result = .ok res) :
    (z.momentOfLocal w x).result = (momentIn x res.earliest).result := by
  have state : (z.stateOfLocal w x).result = .ok res.earliest := Traced.result_bind_of_ok h
  exact Traced.result_bind_of_ok state

/-- A moment that an earliest candidate makes is a moment of the calendar. -/
theorem inCalendar_of_momentIn {s : ZoneState} {m : ZonedDateTime} (h : (momentIn x s).result = .ok m) :
    InCalendar (x.timestamp - s.offset.seconds) := by
  obtain ⟨state, reads⟩ := momentIn_eq_ok.mp h
  rw [← reads.timestamp_eq state]
  exact m.utc.inCalendar_timestamp

/-- Where the earliest candidate makes no moment, the others are not tried. -/
theorem resolve_of_earliest_error {states : Resolution ZoneState} {e : Fault}
    (h : (z.candidates w x).result = .ok states) (he : (momentIn x states.earliest).result = .error e) :
    (z.resolve w x).result = .error e := by
  unfold resolve
  rw [Traced.result_bind_of_ok h]
  cases states with
  | single s => exact Traced.result_bind_of_error he
  | ambiguous s t => exact Traced.result_bind_of_error he

/-- All candidates have to make a moment. -/
theorem resolve_of_later_error {s t : ZoneState} {m : ZonedDateTime} {e : Fault}
    (h : (z.candidates w x).result = .ok (.ambiguous s t)) (hm : (momentIn x s).result = .ok m)
    (he : (momentIn x t).result = .error e) : (z.resolve w x).result = .error e := by
  unfold resolve
  rw [Traced.result_bind_of_ok h]
  exact (Traced.result_bind_of_ok hm).trans (Traced.result_bind_of_error he)

/-- The one moment of a reading is the earliest of all, unless there are two candidates and only the moment
of the later one lies outside the calendar. -/
theorem takesEarliest_momentOfLocal_iff (fails : (z.candidates w x).FailsAsInvalid) :
    (z.momentOfLocal w x).TakesEarliest (z.resolve w x) ↔
      ∀ s t, (z.candidates w x).result = .ok (.ambiguous s t) → InCalendar (x.timestamp - s.offset.seconds) →
        InCalendar (x.timestamp - t.offset.seconds) := by
  constructor
  · intro takes s t two inside
    refine Classical.byContradiction fun outside => ?_
    obtain ⟨m, hm⟩ := exists_momentIn (s := s) inside
    have result := takes.result
    rw [momentOfLocal_of_candidates two, resolve_of_later_error two hm (momentIn_of_outside outside)] at result
    cases hm.symm.trans result
  · intro later
    refine ⟨?_, failsAsInvalid_resolve fails, (notes_momentOfLocal w z x).trans (notes_resolve w z x).symm⟩
    cases h : (z.candidates w x).result with
    | error e => rw [momentOfLocal_of_error h, resolve_of_error h]; rfl
    | ok states =>
      rw [momentOfLocal_of_candidates h]
      cases hm : (momentIn x states.earliest).result with
      | error e => rw [resolve_of_earliest_error h hm]; rfl
      | ok m =>
        -- the earliest candidate makes a moment; the others have to make one, too
        cases states with
        | single s => rw [resolve_of_single h hm]; rfl
        | ambiguous s t =>
          obtain ⟨n, hn⟩ := exists_momentIn (later s t h (inCalendar_of_momentIn hm))
          rw [resolve_of_ambiguous h hm hn]
          rfl

/-- The one date is the earliest of all. -/
theorem takesEarliest_dateOfLocal {d : CivilDate} (fails : (z.dateCandidates w d).FailsAsInvalid) :
    (z.dateOfLocal w d).TakesEarliest (z.resolveDate w d) where
  result := by
    unfold dateOfLocal stateOfLocalDate resolveDate
    cases h : (z.dateCandidates w d).result with
    | error e =>
      rw [Traced.bind_of_error h, Traced.bind_of_error h, Traced.bind_of_error rfl]
      rfl
    | ok states =>
      rw [Traced.bind_of_ok h, Traced.result_bind_of_ok h, Traced.result_bind_of_ok rfl]
      cases states <;> rfl
  failure := failsAsInvalid_bind fails fun _ => failsAsInvalid_of_ok rfl
  notes := by
    have all : (z.resolveDate w d).notes = (z.dateCandidates w d).notes := Traced.notes_bind fun _ => rfl
    rw [all]
    exact (Traced.notes_bind fun _ => rfl).trans (Traced.notes_bind fun _ => rfl)

end Zone

/-! ## The second candidate of a region -/

/-- A reading that a region shows has a second candidate there, whose moment lies outside the calendar. -/
structure Region.LosesLater (r : Region) (x : CivilDateTime) : Prop where
  inside : InCalendar (x.timestamp - (r.data.ofLocal x.timestamp .first).offset)
  shows : r.data.clock.Shows x.timestamp (x.timestamp - (r.data.ofLocal x.timestamp .first).offset)
  outside : ¬ InCalendar (x.timestamp - (r.data.ofLocal x.timestamp .second).offset)

namespace Zone

variable {w : World} {z : Zone} {x : CivilDateTime} {r : Region}

theorem losesLater_iff (w : World) (bounded : r.data.FindsBelowDay) :
    r.LosesLater x ↔ ∃ s t, ((region r).candidates w x).result = .ok (.ambiguous s t) ∧
      InCalendar (x.timestamp - s.offset.seconds) ∧ ¬ InCalendar (x.timestamp - t.offset.seconds) := by
  constructor
  · intro loses
    obtain ⟨early, he⟩ := Region.exists_offsetOf r (bounded.ofLocal x.timestamp .first)
    obtain ⟨late, hl⟩ := Region.exists_offsetOf r (bounded.ofLocal x.timestamp .second)
    obtain ⟨inside, shows, outside⟩ := loses
    rw [← (Region.offsetOf_eq_ok.mp he).1] at inside shows
    rw [← (Region.offsetOf_eq_ok.mp hl).1] at outside
    -- one offset leads into the calendar and the other one out of it
    have ne : early.offset ≠ late.offset := fun same => outside (same ▸ inside)
    have two : (r.candidates x).result = .ok (.ambiguous early late) :=
      Region.candidates_eq_ok.mpr ⟨early, late, he, hl, inside, shows, (if_neg ne).symm⟩
    exact ⟨.region early, .region late, candidates_region_of_ok two, inside, outside⟩
  · rintro ⟨s, t, two, inside, outside⟩
    obtain ⟨res, found, two⟩ := Traced.result_bind_eq_ok.mp two
    obtain ⟨early, late, he, hl, -, shows, rfl⟩ := Region.candidates_eq_ok.mp found
    split at two
    · cases two
    · cases two
      change InCalendar (x.timestamp - early.offset.seconds) at inside
      change ¬ InCalendar (x.timestamp - late.offset.seconds) at outside
      rw [(Region.offsetOf_eq_ok.mp he).1] at inside shows
      rw [(Region.offsetOf_eq_ok.mp hl).1] at outside
      exact ⟨inside, shows, outside⟩

def LosesLater (x : CivilDateTime) : Zone → Prop
  | region r => r.LosesLater x
  | _ => False

/-- Of two candidates the later one makes a moment as well, unless it is lost. -/
theorem losesLater_iff_candidates (w : World) (below : z.BelowDay) :
    z.LosesLater x ↔ ∃ s t, (z.candidates w x).result = .ok (.ambiguous s t) ∧
      InCalendar (x.timestamp - s.offset.seconds) ∧ ¬ InCalendar (x.timestamp - t.offset.seconds) := by
  cases z with
  | region r => exact losesLater_iff w below.findsBelowDay
  | custom => exact below.elim
  | utc => exact ⟨False.elim, fun ⟨_, _, two, _⟩ => by cases two⟩
  | fixed o => exact ⟨False.elim, fun ⟨_, _, two, _⟩ => by cases two⟩
  | system =>
    refine ⟨False.elim, ?_⟩
    rintro ⟨s, t, two, -, outside⟩
    obtain ⟨res, found, two⟩ := Traced.result_bind_eq_ok.mp two
    cases res with
    | single o => cases two
    | ambiguous p q =>
      cases two
      exact outside (System.inCalendar_of_candidates found q (by simp [Resolution.toList]))

theorem not_losesLater_of_inside (below : z.BelowDay) (inside : x.Inside 86400) : ¬ z.LosesLater x := by
  cases z with
  | region r =>
    intro loses
    exact loses.outside (Region.inCalendar_of_belowDay inside (below.findsBelowDay.ofLocal _ _))
  | custom => exact below.elim
  | _ => exact id

/-- A lost later moment takes the earlier one with it where both are wanted. -/
theorem resolve_of_losesLater (w : World) (below : z.BelowDay) (loses : z.LosesLater x) :
    (∃ m, (z.momentOfLocal w x).result = .ok m ∧ m.Reads x) ∧
      (z.resolve w x).result = .error (.failure .invalidDateTime) := by
  obtain ⟨s, t, two, inside, outside⟩ := (losesLater_iff_candidates w below).mp loses
  obtain ⟨m, hm⟩ := exists_momentIn (s := s) inside
  refine ⟨⟨m, (momentOfLocal_of_candidates two).trans hm, (momentIn_eq_ok.mp hm).2⟩, ?_⟩
  exact resolve_of_later_error two hm (momentIn_of_outside outside)

end Zone

/-- Of a date, a zone makes the earliest of all dates that it may be there, or both are refused. Of a reading it
makes the earliest of all moments or both are refused, unless the later moment is lost: then there
is a moment, and all moments are refused. A day inside the calendar none is lost, and the notes are the
same in any case. -/
theorem takesEarliest_iff (w : World) (z : Zone) (below : z.BelowDay) :
    (∀ d, (z.dateOfLocal w d).TakesEarliest (z.resolveDate w d)) ∧
      ∀ x, (z.momentOfLocal w x).notes = (z.resolve w x).notes ∧
        ((z.momentOfLocal w x).TakesEarliest (z.resolve w x) ↔ ¬ z.LosesLater x) ∧
        (z.LosesLater x → (∃ m, (z.momentOfLocal w x).result = .ok m ∧ m.Reads x) ∧
          (z.resolve w x).result = .error (.failure .invalidDateTime)) ∧
        (x.Inside 86400 → ¬ z.LosesLater x) := by
  constructor
  · intro d
    have asked : z.dateCandidates w d = z.candidates w (.startOf d) := by
      cases z with
      | custom => exact below.elim
      | _ => rfl
    exact Zone.takesEarliest_dateOfLocal (asked ▸ Zone.failsAsInvalid_candidates w below _)
  · intro x
    refine ⟨(Zone.notes_momentOfLocal w z x).trans (Zone.notes_resolve w z x).symm, ?_,
      Zone.resolve_of_losesLater w below, Zone.not_losesLater_of_inside below⟩
    rw [Zone.takesEarliest_momentOfLocal_iff (Zone.failsAsInvalid_candidates w below x),
      Zone.losesLater_iff_candidates w below]
    constructor
    · rintro later ⟨s, t, two, inside, outside⟩
      exact outside (later s t two inside)
    · intro kept s t two inside
      exact Classical.byContradiction fun outside => kept ⟨s, t, two, inside, outside⟩

/-- Clocks that are put back by an hour half an hour before the calendar ends. -/
def lastNight : Region where
  key := "Last/Night"
  data :=
    { first := ⟨0, false, "A"⟩
      before := ⟨0, false, "A"⟩
      transitions := #[⟨253402299000, ⟨-3600, false, "B"⟩⟩]
      after := .fixed "B" (-3600) }

theorem belowDay_lastNight : lastNight.data.BelowDay := by
  have listed : RegionData.ofTable? [⟨0, false, "A"⟩, ⟨-3600, false, "B"⟩] [(253402299000, 1)] none =
    some lastNight.data := rfl
  exact RegionData.belowDay_of_ofTable? listed (by decide) fun r hr => by cases hr

def lastNightWorld : World :=
  ⟨.fixed "UTC" 0, [(lastNight.key, lastNight.data)], .constant none none none none⟩

/-- The date 9999-12-31. -/
def lastDay : CivilDate := ⟨3652059, by decide, by decide⟩

/-- The reading 9999-12-31 23:15:00. -/
def lastQuarterPast : CivilDateTime where
  date := lastDay
  time := { ClockTime.midnight with secondOfDay := 83700, second_nonneg := by decide, second_lt := by decide }

theorem takesEarliest_lastNight :
    lastNight.data.BelowDay ∧
      (∀ d, ((Zone.region lastNight).dateOfLocal lastNightWorld d).TakesEarliest
        ((Zone.region lastNight).resolveDate lastNightWorld d)) ∧
      ∀ x, ((Zone.region lastNight).momentOfLocal lastNightWorld x).notes =
          ((Zone.region lastNight).resolve lastNightWorld x).notes ∧
        (((Zone.region lastNight).momentOfLocal lastNightWorld x).TakesEarliest
          ((Zone.region lastNight).resolve lastNightWorld x) ↔ ¬ (Zone.region lastNight).LosesLater x) ∧
        ((Zone.region lastNight).LosesLater x →
          (∃ m, ((Zone.region lastNight).momentOfLocal lastNightWorld x).result = .ok m ∧ m.Reads x) ∧
            ((Zone.region lastNight).resolve lastNightWorld x).result = .error (.failure .invalidDateTime)) ∧
        (x.Inside 86400 → ¬ (Zone.region lastNight).LosesLater x) :=
  ⟨belowDay_lastNight, takesEarliest_iff lastNightWorld (.region lastNight) belowDay_lastNight⟩

/-- There the reading 23:15 is shown once, at 23:15 in UTC, and the zone makes this moment. Asked for all
moments, it tries the hour after midnight as well and refuses. -/
theorem not_takesEarliest_lastNight :
    lastNight.data.BelowDay ∧
      ((Zone.region lastNight).momentOfLocal lastNightWorld lastQuarterPast).result =
        .ok ⟨lastQuarterPast, .region ⟨.zero, "Last/Night", some "A"⟩⟩ ∧
      ((Zone.region lastNight).resolve lastNightWorld lastQuarterPast).result =
        .error (.failure .invalidDateTime) ∧
      ¬ ((Zone.region lastNight).momentOfLocal lastNightWorld lastQuarterPast).TakesEarliest
        ((Zone.region lastNight).resolve lastNightWorld lastQuarterPast) := by
  have one : ((Zone.region lastNight).momentOfLocal lastNightWorld lastQuarterPast).result =
    .ok ⟨lastQuarterPast, .region ⟨.zero, "Last/Night", some "A"⟩⟩ := rfl
  have all : ((Zone.region lastNight).resolve lastNightWorld lastQuarterPast).result =
    .error (.failure .invalidDateTime) := rfl
  refine ⟨belowDay_lastNight, one, all, fun takes => ?_⟩
  have result := takes.result
  rw [one, all] at result
  cases result

end CivilTime
