/-
  CivilTime.Proofs.Ends — what zones refuse at the ends of the calendar.

  A step that leaves the calendar makes no moment, and neither does a reading that is skipped. The reason given is
  the same for both, and nothing else stands in the way (`Traced.FailsJustIf`):
  (1) A region refuses a moment of UTC just if its reading by the local time in force leaves the calendar, and a
  reading just if the moment that the first fold's offset makes of it leaves the calendar or shows something else.
  (2) A zone with one state makes every moment of UTC. It refuses a reading just if the moment leaves the calendar.
  (3) A text that has been read is refused for no other reason, but for an offset that is not the zone's
  (`fault_of_momentOfText`). An offset that is read is less than a day, so it is never out of bounds; those with a
  fraction of a second are refused before it is rounded to one that may be.

  Main statement: `refuses_exactly`.
-/

import CivilTime.Program.Acting
import CivilTime.Proofs.Earliest
import CivilTime.Proofs.Parsing

namespace CivilTime

open CivilDateTime (InCalendar)
open Traced (failsAsInvalid_of_ok failsAsInvalid_bind)

namespace Traced

variable {α : Type} {t : Traced α} {beyond : Prop}

/-- There is no result just if a condition holds, and then the reason is that no such date and time exists. -/
structure FailsJustIf (t : Traced α) (beyond : Prop) : Prop where
  refused : beyond → t.result = .error (.failure .invalidDateTime)
  made : ¬ beyond → ∃ a, t.result = .ok a

theorem failsJustIf_of_exists_iff (fails : t.FailsAsInvalid) (found : (∃ a, t.result = .ok a) ↔ ¬ beyond) :
    t.FailsJustIf beyond where
  refused h := by
    cases made : t.result with
    | error f => rw [fails f made]
    | ok a => exact absurd h (found.mp ⟨a, made⟩)
  made := found.mpr

end Traced

open Traced (failsJustIf_of_exists_iff)

namespace Zone

variable {w : World} {z : Zone} {x : CivilDateTime}

/-! ## How moments are refused -/

theorem failsAsInvalid_stateOfUtc (w : World) (below : z.BelowDay) (x : CivilDateTime) :
    (z.stateOfUtc w x).FailsAsInvalid := by
  cases z with
  | utc => exact failsAsInvalid_of_ok rfl
  | fixed o => exact failsAsInvalid_of_ok rfl
  | system =>
    exact failsAsInvalid_bind (System.failsAsInvalid_orInvalid _) fun _ => failsAsInvalid_of_ok rfl
  | region r =>
    refine failsAsInvalid_bind ?_ fun _ => failsAsInvalid_of_ok rfl
    intro f hf
    rw [Region.offsetOfUtc_eq] at hf
    split at hf
    · obtain ⟨o, ho⟩ := Region.exists_offsetOf r (below.findsBelowDay.ofLocal _ _)
      rw [ho] at hf
      cases hf
    · cases hf
      rfl
  | custom => exact below.elim

theorem failsAsInvalid_momentOfUtc (w : World) (below : z.BelowDay) (x : CivilDateTime) :
    (z.momentOfUtc w x).FailsAsInvalid :=
  failsAsInvalid_bind (failsAsInvalid_stateOfUtc w below x) fun _ => failsAsInvalid_of_ok rfl

theorem failsAsInvalid_momentOfLocal (w : World) (below : z.BelowDay) (x : CivilDateTime) :
    (z.momentOfLocal w x).FailsAsInvalid := by
  refine failsAsInvalid_bind ?_ fun s => failsAsInvalid_momentIn x s
  exact failsAsInvalid_bind (failsAsInvalid_candidates w below x) fun _ => failsAsInvalid_of_ok rfl

/-! ## (1) Regions -/

section Region

variable {r : Region} (below : r.data.BelowDay)

include below

theorem exists_momentOfUtc_region_iff : (∃ m, ((region r).momentOfUtc w x).result = .ok m) ↔
    InCalendar (x.timestamp + (r.data.clock x.timestamp).offset) := by
  constructor
  · rintro ⟨m, hm⟩
    obtain ⟨-, state⟩ := momentOfUtc_eq_ok.mp hm
    obtain ⟨o, ho, -⟩ := Traced.result_bind_eq_ok.mp state
    exact (Region.offsetOfUtc_eq_ok.mp ho).1
  · intro inside
    obtain ⟨o, ho⟩ := Region.exists_offsetOf r (below.findsBelowDay.ofLocal _ _)
    have state := Region.offsetOfUtc_eq_ok.mpr ⟨inside, ho⟩
    exact ⟨⟨x, .region o⟩, momentOfUtc_eq_ok.mpr ⟨rfl, Traced.result_bind_of_ok state⟩⟩

theorem exists_momentOfLocal_region_iff : (∃ m, ((region r).momentOfLocal w x).result = .ok m) ↔
    InCalendar (x.timestamp - (r.data.ofLocal x.timestamp .first).offset) ∧
      r.data.clock.Shows x.timestamp (x.timestamp - (r.data.ofLocal x.timestamp .first).offset) := by
  constructor
  · rintro ⟨m, hm⟩
    obtain ⟨s, hs, -⟩ := Traced.result_bind_eq_ok.mp hm
    obtain ⟨states, found, -⟩ := Traced.result_bind_eq_ok.mp hs
    obtain ⟨res, found, -⟩ := Traced.result_bind_eq_ok.mp found
    obtain ⟨early, -, he, -, inside, shows, -⟩ := Region.candidates_eq_ok.mp found
    rw [(Region.offsetOf_eq_ok.mp he).1] at inside shows
    exact ⟨inside, shows⟩
  · rintro ⟨inside, shows⟩
    obtain ⟨early, he⟩ := Region.exists_offsetOf r (below.findsBelowDay.ofLocal x.timestamp .first)
    obtain ⟨late, hl⟩ := Region.exists_offsetOf r (below.findsBelowDay.ofLocal x.timestamp .second)
    rw [← (Region.offsetOf_eq_ok.mp he).1] at inside shows
    have found := candidates_region_of_ok (w := w)
      (Region.candidates_eq_ok.mpr ⟨early, late, he, hl, inside, shows, rfl⟩)
    rw [momentOfLocal_of_candidates found]
    -- The candidate of the first fold is the earliest one, whether or not there is another.
    have earliest : ((if early.offset = late.offset then Resolution.single early
        else .ambiguous early late).map ZoneState.region).earliest = .region early := by
      split <;> rfl
    rw [earliest]
    exact exists_momentIn inside

end Region

/-! ## (2) Zones with one state -/

section OnlyState

variable {s : ZoneState} (only : z.onlyState? = some s)

include only

theorem momentOfUtc_of_onlyState (w : World) (x : CivilDateTime) : z.momentOfUtc w x = pure ⟨x, s⟩ := by
  rw [momentOfUtc, stateOfUtc_of_onlyState only, pure_bind]

theorem exists_momentOfLocal_iff_of_onlyState :
    (∃ m, (z.momentOfLocal w x).result = .ok m) ↔ InCalendar (x.timestamp - s.offset.seconds) := by
  have found : (z.candidates w x).result = .ok (.single s) := by
    rw [candidates_of_onlyState only]
    rfl
  rw [momentOfLocal_of_candidates found]
  constructor
  · rintro ⟨m, hm⟩
    exact inCalendar_of_momentIn hm
  · exact exists_momentIn

/-- What the zone offers for moments of UTC because it has one state answers what is offered by all zones. -/
theorem perform_onlyMomentOfUtc (w : World) (x : CivilDateTime) :
    Action.perform w (.zone z) [.dateTime x] .onlyMomentOfUtc = pure (.moment ⟨x, s⟩) ∧
      Action.perform w (.zone z) [.dateTime x] .momentOfUtc = pure (.moment ⟨x, s⟩) := by
  cases z <;> cases only <;> exact ⟨rfl, rfl⟩

end OnlyState

/-! ## (3) Texts -/

section Text

variable {text format : String} {parsed : Pattern.Parsed}
  (read : Pattern.read (System.zoneNames w.system) text format = .ok parsed)

include read

/-- A text without an offset is a reading. -/
theorem momentOfText_eq_local (none : parsed.offsetMicros = none) :
    z.momentOfText w text format = z.momentOfLocal w parsed.reading.toCivil := by
  unfold momentOfText
  rw [read, Traced.lift_ok, pure_bind, none]

theorem fault_of_momentOfText (below : z.BelowDay) {f : Fault}
    (fails : (z.momentOfText w text format).result = .error f) :
    f = .failure .invalidDateTime ∨ ∃ e, parsed.offsetMicros = some e ∧ f.RefusesOffset e z.quoted := by
  cases explicit : parsed.offsetMicros with
  | none =>
    rw [momentOfText_eq_local read explicit] at fails
    exact .inl (failsAsInvalid_momentOfLocal w below _ f fails)
  | some e =>
    -- what may fail on the way to the moment of UTC does so outside the calendar; then there is the comparison
    by_cases whole : e % 1000000 = 0
    · obtain ⟨o, seconds⟩ := Pattern.exists_offset_of_read read explicit whole
      cases hu : parsed.reading.toCivil.toUtc o with
      | error g =>
        rw [momentOfText_eq_utc read explicit seconds, hu] at fails
        cases fails
        exact .inl (congrArg Fault.failure (CivilDateTime.shift_eq_error_iff.mp hu).1)
      | ok u =>
        cases hm : (z.momentOfUtc w u).result with
        | error g =>
          rw [momentOfText_eq_utc read explicit seconds, hu, Traced.result_bind_of_ok rfl,
            Traced.result_bind_of_error hm] at fails
          cases fails
          exact .inl (failsAsInvalid_momentOfUtc w below u _ hm)
        | ok m =>
          rw [momentOfText_of_utc read explicit seconds hu hm] at fails
          split at fails
          · cases fails
          · rename_i other
            cases fails
            exact .inr ⟨e, rfl, .mismatch o _ seconds other⟩
    · rw [momentOfText_eq_fault read explicit whole] at fails
      cases fails
      exact .inr ⟨e, rfl, .fraction whole⟩

end Text

end Zone

/-! ## Refusing exactly -/

/-- What a zone refuses of moments of UTC, of readings and of texts, and for which reasons. -/
structure Zone.RefusesExactly (w : World) (z : Zone) : Prop where
  utcInRegion : ∀ r, z = .region r → ∀ x,
    (z.momentOfUtc w x).FailsJustIf (¬ InCalendar (x.timestamp + (r.data.clock x.timestamp).offset))
  readingInRegion : ∀ r, z = .region r → ∀ x, (z.momentOfLocal w x).FailsJustIf
    (¬ InCalendar (x.timestamp - (r.data.ofLocal x.timestamp .first).offset) ∨
      ¬ r.data.clock.Shows x.timestamp (x.timestamp - (r.data.ofLocal x.timestamp .first).offset))
  utcInOnlyState : ∀ s, z.onlyState? = some s → ∀ x, z.momentOfUtc w x = pure ⟨x, s⟩ ∧
    Action.perform w (.zone z) [.dateTime x] .onlyMomentOfUtc = pure (.moment ⟨x, s⟩) ∧
    Action.perform w (.zone z) [.dateTime x] .momentOfUtc = pure (.moment ⟨x, s⟩)
  readingInOnlyState : ∀ s, z.onlyState? = some s → ∀ x,
    (z.momentOfLocal w x).FailsJustIf (¬ InCalendar (x.timestamp - s.offset.seconds))
  kind : ∀ x, (z.momentOfUtc w x).FailsAsInvalid ∧ (z.momentOfLocal w x).FailsAsInvalid
  text : ∀ text format parsed, Pattern.read (System.zoneNames w.system) text format = .ok parsed →
    ∀ f, (z.momentOfText w text format).result = .error f →
      f = .failure .invalidDateTime ∨ ∃ e, parsed.offsetMicros = some e ∧ f.RefusesOffset e z.quoted

theorem refuses_exactly (w : World) (z : Zone) (below : z.BelowDay) : z.RefusesExactly w := by
  constructor
  case utcInRegion =>
    rintro r rfl x
    apply failsJustIf_of_exists_iff (Zone.failsAsInvalid_momentOfUtc w below x)
    rw [Zone.exists_momentOfUtc_region_iff below, Classical.not_not]
  case readingInRegion =>
    rintro r rfl x
    apply failsJustIf_of_exists_iff (Zone.failsAsInvalid_momentOfLocal w below x)
    rw [Zone.exists_momentOfLocal_region_iff below, not_or, Classical.not_not, Classical.not_not]
  case utcInOnlyState =>
    intro s only x
    exact ⟨Zone.momentOfUtc_of_onlyState only w x, Zone.perform_onlyMomentOfUtc only w x⟩
  case readingInOnlyState =>
    intro s only x
    apply failsJustIf_of_exists_iff (Zone.failsAsInvalid_momentOfLocal w below x)
    rw [Zone.exists_momentOfLocal_iff_of_onlyState only, Classical.not_not]
  case kind =>
    intro x
    exact ⟨Zone.failsAsInvalid_momentOfUtc w below x, Zone.failsAsInvalid_momentOfLocal w below x⟩
  case text =>
    intro text format parsed read f fails
    exact Zone.fault_of_momentOfText read below fails

/-- So it is where the clocks are put back in the last hour of the calendar, and in UTC. -/
theorem refuses_exactly_lastNight :
    (Zone.region lastNight).BelowDay ∧ (Zone.region lastNight).RefusesExactly lastNightWorld ∧
      Zone.utc.BelowDay ∧ Zone.utc.RefusesExactly lastNightWorld :=
  ⟨belowDay_lastNight, refuses_exactly lastNightWorld (.region lastNight) belowDay_lastNight,
    trivial, refuses_exactly lastNightWorld .utc trivial⟩

end CivilTime
