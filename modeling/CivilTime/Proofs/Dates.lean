/-
  CivilTime.Proofs.Dates — which local dates can be made in a zone.

  A local date stands for its midnight: it is made if midnight has a candidate, and then carries the state
  of the earliest one. A date can occur without its midnight, where a change skips the start of
  the day. So from the moments of UTC that a region shows on a date one cannot conclude that the date
  can be made.

  `exists_localForm`: a moment of UTC is shown as a reading, which falls on some date.
  `makes_of_shown`: the date of a reading that is shown can be made if midnight is shown as well, and at
  the reading's time of day it leads back to the reading.
  `dateOfYmd_of_skipped`: a date whose midnight no second shows is refused.

  Main statement: in a region with a list of changes, the date of a moment of UTC can be made just when
  no change skips its midnight (`dateOfYmd_iff`).
-/

import CivilTime.Proofs.Moments

namespace CivilTime

open CivilDateTime (InCalendar startOf)

/-! ## From what a reading resolves to -/

namespace Zone

variable {w : World} {z : Zone} {x : CivilDateTime} {res : Resolution ZonedDateTime}

/-- A reading that resolves has a candidate for the earliest moment. -/
theorem earliest_of_resolve (h : (z.resolve w x).result = .ok res) :
    ∃ states, (z.candidates w x).result = .ok states ∧ (momentIn x states.earliest).result = .ok res.earliest := by
  obtain ⟨states, found, h⟩ := Traced.result_bind_eq_ok.mp h
  refine ⟨states, found, ?_⟩
  cases states with
  | single s =>
    obtain ⟨m, hm, h⟩ := Traced.result_bind_eq_ok.mp h
    cases h
    exact hm
  | ambiguous s t =>
    obtain ⟨m, hm, h⟩ := Traced.result_bind_eq_ok.mp h
    obtain ⟨n, -, h⟩ := Traced.result_bind_eq_ok.mp h
    cases h
    exact hm

/-- Where one moment is wanted of a reading, it is the earliest. -/
theorem momentOfLocal_of_resolve (h : (z.resolve w x).result = .ok res) :
    (z.momentOfLocal w x).result = .ok res.earliest := by
  obtain ⟨states, found, hm⟩ := earliest_of_resolve h
  have state : (z.stateOfLocal w x).result = .ok states.earliest := Traced.result_bind_of_ok found
  exact (Traced.result_bind_of_ok state).trans hm

/-- A date carries the state of the earliest moment of its midnight. -/
theorem dateOfLocal_of_resolve {d : CivilDate} (known : z.Known w) (h : (z.resolve w (startOf d)).result = .ok res) :
    (z.dateOfLocal w d).result = .ok ⟨d, res.earliest.state⟩ := by
  obtain ⟨states, found, hm⟩ := earliest_of_resolve h
  rw [← (dateCandidates_eq known d).1] at found
  have state : (z.stateOfLocalDate w d).result = .ok states.earliest := Traced.result_bind_of_ok found
  rw [(momentIn_eq_ok.mp hm).1]
  exact Traced.result_bind_of_ok state

theorem dateOfLocal_of_error {d : CivilDate} {e : Fault} (known : z.Known w)
    (h : (z.candidates w (startOf d)).result = .error e) : (z.dateOfLocal w d).result = .error e := by
  rw [← (dateCandidates_eq known d).1] at h
  unfold dateOfLocal stateOfLocalDate
  rw [Traced.bind_of_error h, Traced.bind_of_error rfl]

/-- The fields of a date make it again in a zone. -/
theorem dateOfYmd_own (w : World) (z : Zone) (d : CivilDate) :
    z.dateOfYmd w d.year d.month d.day = z.dateOfLocal w d := by
  unfold dateOfYmd
  rw [d.ofYmd_year_month_day]
  rfl

end Zone

/-! ## Regions -/

namespace Zone

variable {w : World} {r : Region} {x : CivilDateTime}

/-- A reading that a region of faithful records shows resolves to moments that show it there. -/
theorem exists_resolve (w : World) (faithful : r.data.Faithful) (bounded : r.data.FindsBelowDay)
    (inside : x.Inside 86400) (shown : ∃ t, r.data.clock.Shows x.timestamp t) :
    ∃ res, ((region r).resolve w x).result = .ok res ∧ res.earliest.ReadsIn r.data.clock r.key x := by
  have exhausts := Region.resolve_exhausts w faithful bounded inside
  generalize ((region r).resolve w x).result = out at exhausts
  cases exhausts with
  | skipped never =>
    obtain ⟨t, ht⟩ := shown
    exact absurd ht (never t)
  | single m hm _ => exact ⟨_, rfl, hm⟩
  | ambiguous a b ha _ _ _ => exact ⟨_, rfl, ha⟩

/-- A reading that no second shows has no candidates. -/
theorem candidates_of_skipped (w : World) (bounded : r.data.FindsBelowDay)
    (skipped : ¬ ∃ t, r.data.clock.Shows x.timestamp t) :
    ((region r).candidates w x).result = .error (.failure .invalidDateTime) := by
  obtain ⟨early, he⟩ := Region.exists_offsetOf r (bounded.ofLocal x.timestamp .first)
  have absent := fun shows => skipped ⟨x.timestamp - early.offset.seconds, shows⟩
  exact candidates_region_of_error (Region.candidates_of_not_shows he absent)

/-- The region of a moment's state is found again by its key. -/
theorem ofState_of_isRegion {s : ZoneState} {t : LocalType} (known : (region r).Known w) (h : s.IsRegion r.key t) :
    (ofState w s).result = .ok (region r) := by
  obtain ⟨o, rfl, -⟩ := h
  exact Traced.result_bind_of_ok (Traced.lift_result_eq_ok.mpr known)

end Zone

/-- The date of a reading can be made in a zone, and at the reading's time of day it has a moment that shows
the reading. -/
def Makes (w : World) (z : Zone) (x : CivilDateTime) : Prop :=
  ∃ d m, (z.dateOfYmd w x.date.year x.date.month x.date.day).result = .ok d ∧ d.date = x.date ∧
    (d.atTime w x.time).result = .ok m ∧ m.localForm = .ok x

section Region

variable {w : World} {r : Region} {x : CivilDateTime}

/-- Midnight is less than a day away. -/
theorem CivilDateTime.Inside.startOf {margin : Int} (inside : x.Inside (margin + 86400)) :
    (CivilDateTime.startOf x.date).Inside margin := by
  have := x.time.second_nonneg; have := x.time.second_lt
  unfold Inside timestamp at *
  show _ ≤ (x.date.dayNumber - epochDay) * 86400 + 0 ∧ (x.date.dayNumber - epochDay) * 86400 + 0 + _ ≤ _
  omega

theorem makes_of_shown (known : (Zone.region r).Known w) (faithful : r.data.Faithful) (bounded : r.data.FindsBelowDay)
    (inside : x.Inside 172800) (shown : ∃ t, r.data.clock.Shows x.timestamp t)
    (midnight : ∃ t, r.data.clock.Shows (startOf x.date).timestamp t) : Makes w (.region r) x := by
  have near : x.Inside 86400 := by unfold CivilDateTime.Inside at *; omega
  obtain ⟨dawn, atDawn, earliest⟩ := Zone.exists_resolve w faithful bounded inside.startOf midnight
  obtain ⟨res, resolved, reads⟩ := Zone.exists_resolve w faithful bounded near shown
  refine ⟨⟨x.date, dawn.earliest.state⟩, res.earliest, ?_, rfl, ?_, ZonedDateTime.localForm_eq_ok.mpr reads.reads⟩
  · rw [Zone.dateOfYmd_own]
    exact Zone.dateOfLocal_of_resolve known atDawn
  · have zone := Zone.ofState_of_isRegion known earliest.state
    exact (Traced.result_bind_of_ok zone).trans (Zone.momentOfLocal_of_resolve resolved)

/-- A date whose midnight is skipped does not exist. -/
theorem dateOfYmd_of_skipped (known : (Zone.region r).Known w) (bounded : r.data.FindsBelowDay) {d : CivilDate}
    (skipped : ¬ ∃ t, r.data.clock.Shows (startOf d).timestamp t) :
    ((Zone.region r).dateOfYmd w d.year d.month d.day).result = .error (.failure .invalidDateTime) := by
  rw [Zone.dateOfYmd_own]
  exact Zone.dateOfLocal_of_error known (Zone.candidates_of_skipped w bounded skipped)

/-- A moment of UTC is shown as a reading that is a day away at most. -/
theorem exists_localForm (w : World) {u : CivilDateTime} (faithful : r.data.Faithful)
    (bounded : r.data.FindsBelowDay) (inside : u.Inside 86400) :
    ∃ m l, ((Zone.region r).momentOfUtc w u).result = .ok m ∧ m.localForm = .ok l ∧
      r.data.clock.Shows l.timestamp u.timestamp ∧ (l.timestamp - u.timestamp).natAbs < 86400 := by
  obtain ⟨m, made⟩ := Zone.exists_momentOfUtc w faithful bounded inside
  obtain ⟨rfl, -⟩ := Zone.momentOfUtc_eq_ok.mp made
  have lo := m.state.offset.neg_day_lt; have hi := m.state.offset.lt_day
  have shown : InCalendar (m.utc.timestamp + m.state.offset.seconds) := by
    obtain ⟨left, right⟩ := inside
    unfold InCalendar; omega
  obtain ⟨l, reads⟩ := ZonedDateTime.exists_reads shown
  have seconds := reads.seconds
  exact ⟨m, l, made, ZonedDateTime.localForm_eq_ok.mpr reads,
    (Zone.readsIn_of_momentOfUtc faithful made reads).shows, by omega⟩

end Region

/-- A moment of UTC is shown on some date in a region with a list of changes. The date can be made, and the
reading found again by its time of day, unless a change skips midnight of the date; then the answer
is that no such date and time exists. -/
theorem dateOfYmd_iff (w : World) (r : Region) (u : CivilDateTime) (listed : r.data.IsListed)
    (known : (Zone.region r).Known w) (inside : u.Inside 259200) :
    ∃ m l, ((Zone.region r).momentOfUtc w u).result = .ok m ∧ m.localForm = .ok l ∧
      (Makes w (.region r) l ↔ ¬ r.data.Skips (startOf l.date).timestamp) ∧
      (r.data.Skips (startOf l.date).timestamp →
        ((Zone.region r).dateOfYmd w l.date.year l.date.month l.date.day).result =
          .error (.failure .invalidDateTime)) := by
  have faithful := listed.faithful
  have bounded := listed.findsBelowDay
  obtain ⟨left, right⟩ := inside
  obtain ⟨m, l, made, shown, shows, near⟩ :=
    exists_localForm w faithful bounded (u := u) (by unfold CivilDateTime.Inside; omega)
  have insideLocal : l.Inside 172800 := by unfold CivilDateTime.Inside; omega
  have midnight := listed.shown_iff (startOf l.date).timestamp
  have refused (skips : r.data.Skips (startOf l.date).timestamp) :=
    dateOfYmd_of_skipped known bounded (d := l.date) fun shown => midnight.mp shown skips
  refine ⟨m, l, made, shown, ⟨?_, fun kept => ?_⟩, refused⟩
  · rintro ⟨d, n, made, -⟩ skips
    rw [refused skips] at made
    cases made
  · exact makes_of_shown known faithful bounded insideLocal ⟨_, shows⟩ (midnight.mpr kept)

/-- Brasília time, put forward by an hour on 2018-11-04, at midnight. -/
def saoPaulo : Region where
  key := "America/Sao_Paulo"
  data :=
    { first := ⟨-10800, false, "-03"⟩
      before := ⟨-10800, false, "-03"⟩
      transitions := #[⟨1541300400, ⟨-7200, true, "-02"⟩⟩]
      after := .fixed "-02" (-7200) }

def saoPauloWorld : World :=
  ⟨.fixed "UTC" 0, [(saoPaulo.key, saoPaulo.data)], .constant none none none none⟩

theorem isListed_saoPaulo : saoPaulo.data.IsListed where
  listed := ⟨[⟨-10800, false, "-03"⟩, ⟨-7200, true, "-02"⟩], [(1541300400, 1)], rfl, by decide⟩
  standardFirst := rfl
  ascending i hi := by change i + 1 < 1 at hi; omega
  apart i hi := by change i + 1 < 1 at hi; omega

/-- The reading 2018-11-04 15:00:00. -/
def november2018 : CivilDateTime where
  date := ⟨737002, by decide, by decide⟩
  time := { ClockTime.midnight with secondOfDay := 54000, second_nonneg := by decide, second_lt := by decide }

theorem dateOfYmd_november2018 :
    saoPaulo.data.IsListed ∧ (Zone.region saoPaulo).Known saoPauloWorld ∧ november2018.Inside 259200 ∧
      ∃ m l, ((Zone.region saoPaulo).momentOfUtc saoPauloWorld november2018).result = .ok m ∧ m.localForm = .ok l ∧
        (Makes saoPauloWorld (.region saoPaulo) l ↔ ¬ saoPaulo.data.Skips (startOf l.date).timestamp) ∧
        (saoPaulo.data.Skips (startOf l.date).timestamp →
          ((Zone.region saoPaulo).dateOfYmd saoPauloWorld l.date.year l.date.month l.date.day).result =
            .error (.failure .invalidDateTime)) :=
  ⟨isListed_saoPaulo, rfl, by decide,
    dateOfYmd_iff saoPauloWorld saoPaulo november2018 isListed_saoPaulo rfl (by decide)⟩

/-- The same moment on the clocks there, 13:00. -/
def november2018There : CivilDateTime where
  date := november2018.date
  time := { ClockTime.midnight with secondOfDay := 46800, second_nonneg := by decide, second_lt := by decide }

def brasiliaSummer : ZoneState := .region ⟨⟨-7200, by decide, by decide⟩, "America/Sao_Paulo", some "-02"⟩

/-- On 2018-11-04 the day began at one o'clock there, and the date cannot be made. -/
theorem not_made_november2018 :
    saoPaulo.data.IsListed ∧ november2018.Inside 259200 ∧
      ((Zone.region saoPaulo).momentOfUtc saoPauloWorld november2018).result = .ok ⟨november2018, brasiliaSummer⟩ ∧
      ZonedDateTime.localForm ⟨november2018, brasiliaSummer⟩ = .ok november2018There ∧
      (november2018There.date.year, november2018There.date.month, november2018There.date.day) = (2018, 11, 4) ∧
      ((Zone.region saoPaulo).dateOfYmd saoPauloWorld 2018 11 4).result = .error (.failure .invalidDateTime) := by
  have skips : saoPaulo.data.Skips (startOf november2018There.date).timestamp :=
    ⟨0, by decide, by decide, by decide, by decide⟩
  have skipped : ¬ ∃ t, saoPaulo.data.clock.Shows (startOf november2018There.date).timestamp t := fun shown =>
    (isListed_saoPaulo.shown_iff _).mp shown skips
  have known : (Zone.region saoPaulo).Known saoPauloWorld := rfl
  refine ⟨isListed_saoPaulo, by decide, rfl, rfl, by decide, ?_⟩
  exact dateOfYmd_of_skipped known isListed_saoPaulo.findsBelowDay skipped

end CivilTime
