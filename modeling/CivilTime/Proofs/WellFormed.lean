/-
  CivilTime.Proofs.WellFormed — whatever a program makes is well formed.

  (1) Most of the work is done by the types. A date, a time of day and an offset carry the bounds of their
  numbers, so the ways to make one that check no fields (counting seconds, shifting, reading a text,
  arriving from elsewhere) cannot go beyond them either. What is left to show is that these are the right
  bounds: the fields that are read off a date and a time are fields of a day and of a time of day, they name
  the date and the time again, and a plain date and time can be made of them, which refuses a field that
  is out of range (`CivilDateTime.wellFormed`).

  (2) That a zone is well formed says something about records, too: a region has known no kind of local time with
  an offset of a day or more. A program makes only regions that are known, so this is a law (`wellFormedLaw`),
  and all values of a program obey it whatever the system's zone is and becomes. A rule for the time
  after the last change may well have such an offset, but then no moment is made by it.

  Main statement: `wellFormed_run`.
-/

import CivilTime.Proofs.Counting
import CivilTime.Proofs.Pattern.Written
import CivilTime.Proofs.Run

namespace CivilTime

open Calendar (IsDay)
open ClockTime (IsTime)

/-! ## Dates, times and offsets -/

/-- A date has the fields of a day in the years from 1 to 9999, and they name it. -/
structure CivilDate.WellFormed (d : CivilDate) : Prop where
  fields : IsDay d.year d.month d.day
  named : ofYmd d.year d.month d.day = .ok d

/-- A time of day is a second of the day with a nanosecond. Its fields are in their ranges and name it, and they
make a plain time on which the nanosecond is held back to the last whole microsecond. -/
structure ClockTime.WellFormed (t : ClockTime) : Prop where
  secondOfDay : 0 ≤ t.secondOfDay ∧ t.secondOfDay < 86400
  fields : IsTime t.hour t.minute t.second t.nanosecond
  named : ofHmsNano t.hour t.minute t.second t.nanosecond = .ok t
  plain : MicroTime.ofFields t.hour t.minute t.second (min t.nanosecond 999999999 / 1000) = .ok t.toMicro

structure CivilDateTime.WellFormed (x : CivilDateTime) : Prop where
  date : x.date.WellFormed
  time : x.time.WellFormed
  plain : MicroDateTime.ofFields x.date.year x.date.month x.date.day x.time.hour x.time.minute x.time.second
    (min x.time.nanosecond 999999999 / 1000) = .ok x.toMicro

def Offset.WellFormed (o : Offset) : Prop := -86400 < o.seconds ∧ o.seconds < 86400

theorem CivilDate.wellFormed (d : CivilDate) : d.WellFormed := ⟨d.isDay, d.ofYmd_year_month_day⟩

theorem ClockTime.wellFormed (t : ClockTime) : t.WellFormed where
  secondOfDay := ⟨t.second_nonneg, t.second_lt⟩
  fields := t.isTime
  named := ofHmsNano_eq_ok_iff.mpr ⟨rfl, rfl, rfl, rfl⟩
  plain := t.toMicro.ofFields_hour_minute_second

theorem CivilDateTime.wellFormed (x : CivilDateTime) : x.WellFormed :=
  ⟨x.date.wellFormed, x.time.wellFormed, x.toMicro.ofFields_own⟩

theorem Offset.wellFormed (o : Offset) : o.WellFormed := ⟨o.neg_day_lt, o.lt_day⟩

/-! ## Zones, moments and all values -/

/-- The kinds of local time in the records have offsets of less than a day, whatever the rule after them is. -/
structure RegionData.KindsBelowDay (d : RegionData) : Prop where
  lists : d.ListsBelowDay
  before : d.before.BelowDay

def Zone.WellFormed : Zone → Prop
  | fixed o => o.WellFormed
  | region r => r.data.KindsBelowDay
  | utc | system | custom => True

/-- A moment is well formed in UTC and in its own zone, where it need not have a reading. -/
structure ZonedDateTime.WellFormed (m : ZonedDateTime) : Prop where
  utc : m.utc.WellFormed
  offset : m.state.offset.WellFormed
  localForm : ∀ x, m.localForm = .ok x → x.WellFormed

theorem ZonedDateTime.wellFormed (m : ZonedDateTime) : m.WellFormed :=
  ⟨m.utc.wellFormed, m.state.offset.wellFormed, fun x _ => x.wellFormed⟩

namespace Value

mutual

def WellFormed : Value → Prop
  | date d => d.WellFormed
  | plainDate d => d.WellFormed
  | clockTime t => t.WellFormed
  | plainTime t => MicroTime.ofFields t.hour t.minute t.second t.microsecond = .ok t
  | dateTime x => x.WellFormed
  | plainDateTime x => MicroDateTime.ofFields x.date.year x.date.month x.date.day x.time.hour x.time.minute
      x.time.second x.time.microsecond = .ok x
  | zone z => z.WellFormed
  | regionOffset o => o.offset.WellFormed
  | zonedDate d => d.date.WellFormed ∧ d.state.offset.WellFormed
  | moment m => m.WellFormed
  | single v => v.WellFormed
  | ambiguous a b => a.WellFormed ∧ b.WellFormed
  | list vs => AllWellFormed vs
  | null | flag _ | int _ | text _ | pair _ _ | failureKind _ | failure _ => True

def AllWellFormed : List Value → Prop
  | [] => True
  | v :: vs => v.WellFormed ∧ AllWellFormed vs

end

end Value

/-! ## The law of well-formed zones -/

def wellFormedLaw : Law where
  zone := Zone.WellFormed
  state _ := True
  moment _ := True

mutual

/-- Where the zones in a value are well formed the whole value is. -/
theorem Value.wellFormed_of_obeys : ∀ {v : Value}, v.Obeys wellFormedLaw → v.WellFormed
  | .date d, _ => d.wellFormed
  | .plainDate d, _ => d.wellFormed
  | .clockTime t, _ => t.wellFormed
  | .plainTime t, _ => t.ofFields_hour_minute_second
  | .dateTime x, _ => x.wellFormed
  | .plainDateTime x, _ => x.ofFields_own
  | .zone _, allowed => allowed
  | .regionOffset o, _ => o.offset.wellFormed
  | .zonedDate d, _ => ⟨d.date.wellFormed, d.state.offset.wellFormed⟩
  | .moment m, _ => m.wellFormed
  | .single v, allowed => Value.wellFormed_of_obeys (v := v) allowed
  | .ambiguous _ _, allowed => ⟨Value.wellFormed_of_obeys allowed.1, Value.wellFormed_of_obeys allowed.2⟩
  | .list _, allowed => Value.allWellFormed_of_obeys allowed
  | .null, _ | .flag _, _ | .int _, _ | .text _, _ | .pair _ _, _ | .failureKind _, _ | .failure _, _ => trivial

theorem Value.allWellFormed_of_obeys : ∀ {vs : List Value}, Value.ObeysAll wellFormedLaw vs → Value.AllWellFormed vs
  | [], _ => trivial
  | _ :: _, allowed => ⟨Value.wellFormed_of_obeys allowed.1, Value.allWellFormed_of_obeys allowed.2⟩

end

/-- A region that is found is among those that are known. -/
theorem World.mem_regions {w : World} {key : String} {r : Region} (h : w.region key = .ok r) :
    (key, r.data) ∈ w.regions := by
  obtain ⟨_, -, h⟩ := except_bind_eq_ok.mp h
  split at h
  · rename_i found
    cases h
    obtain ⟨before, after, all, -⟩ := List.lookup_eq_some_iff.mp found
    rw [all]
    exact List.mem_append_right before List.mem_cons_self
  · cases h

/-- Regions whose records hold no offset of a day or more make the law closed. -/
theorem closed_wellFormedLaw {w : World} (recorded : ∀ known ∈ w.regions, known.2.KindsBelowDay) :
    wellFormedLaw.Closed w where
  utc := trivial
  fixed o := o.wellFormed
  region key r h := recorded _ (World.mem_regions h)
  ofState s _ := by
    cases s with
    | utc => exact Traced.ensures_pure trivial
    | fixed o => exact Traced.ensures_pure o.wellFormed
    | system o => exact Traced.ensures_pure trivial
    | region o =>
      refine Traced.ensures_bind (Traced.ensures_lift fun r h => recorded _ (World.mem_regions h)) fun r below => ?_
      exact Traced.ensures_pure below
    | custom o => exact Traced.ensures_then fun _ => Traced.ensures_pure trivial
  state _ _ := trivial
  stateOfUtcDate z d _ := Traced.ensures_true _
  dateCandidates z d _ := fun _ _ _ _ => trivial
  ofUtc _ _ _ _ _ := trivial
  ofLocal _ _ _ _ _ _ _ := Traced.ensures_true _

/-! ## Runs -/

/-- Every value that a step of a program ends with is well formed, whatever the numbers and texts in the
program are, whatever the system's zone is or is set to, and whatever a zone outside the library answers. -/
theorem wellFormed_run (w : World) (steps : List Step)
    (literals : ∀ step ∈ steps, ∀ v, Argument.literal v ∈ step.args → v.IsLiteral)
    (recorded : ∀ known ∈ w.regions, known.2.KindsBelowDay) :
    ∀ r ∈ run w steps, ∀ v, r.outcome = .done v → v.WellFormed := by
  have closed (w' : World) (same : w'.regions = w.regions) : wellFormedLaw.Closed w' :=
    closed_wellFormedLaw (same ▸ recorded)
  have start : (Session.mk w []).Obeys wellFormedLaw := fun v hv => by cases hv
  have plain (step : Step) (hs : step ∈ steps) (v : Value) (hv : Argument.literal v ∈ step.args) :
      v.Obeys wellFormedLaw := by
    have literal := literals step hs v hv
    cases v <;> first | exact trivial | exact literal.elim
  intro r hr v hv
  exact Value.wellFormed_of_obeys (Session.obeys_replies closed trivial trivial rfl start plain r hr v hv)

theorem kindsBelowDay_ireland : ireland.data.KindsBelowDay where
  lists := ⟨by decide, fun i hi => absurd hi (Nat.not_lt_zero i)⟩
  before := by decide

/-- The region, the reading, the two moments that show it and the later one of them. -/
theorem wellFormed_irishNight :
    (∀ step ∈ irishNight, ∀ v, Argument.literal v ∈ step.args → v.IsLiteral) ∧
      (∀ known ∈ irishWorld.regions, known.2.KindsBelowDay) ∧
      (∃ r ∈ run irishWorld irishNight, r.outcome = .done (.moment irishLater)) ∧
      (Value.moment irishLater).WellFormed := by
  have literals : ∀ step ∈ irishNight, ∀ v, Argument.literal v ∈ step.args → v.IsLiteral := by
    intro step hs
    simp only [irishNight, List.mem_cons, List.not_mem_nil, or_false] at hs
    rcases hs with rfl | rfl | rfl | rfl <;> simp [Value.IsLiteral]
  have recorded : ∀ known ∈ irishWorld.regions, known.2.KindsBelowDay := by
    intro known h
    cases List.mem_singleton.mp h
    exact kindsBelowDay_ireland
  obtain ⟨r, hr, answer⟩ : ∃ r ∈ run irishWorld irishNight, r.outcome = .done (.moment irishLater) :=
    ⟨_, List.mem_of_getElem? (i := 3) rfl, rfl⟩
  exact ⟨literals, recorded, ⟨r, hr, answer⟩, wellFormed_run irishWorld irishNight literals recorded r hr _ answer⟩

end CivilTime
