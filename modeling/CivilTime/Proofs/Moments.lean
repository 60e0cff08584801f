/-
  CivilTime.Proofs.Moments — the moments of a reading, and the same moments made from UTC.

  A zone is asked from two sides: what a reading resolves to, and what state it has at a moment of
  UTC. The answers agree around a reading (`Zone.Agrees`) if the moments found for it are just those that
  show it and that the zone makes from UTC, and if the zone makes one from every reading in UTC nearby.

  A zone with one state agrees with itself (`agrees_of_onlyState`). So does a region of faithful
  records (`agrees_of_faithful`): what it makes from UTC follows its clock (`readsIn_of_momentOfUtc`), what
  it finds for a reading are the seconds at which the clock shows it, and at one second
  there is only one moment (`ReadsIn.unique`).
-/

import CivilTime.Proofs.Region.Listed

namespace CivilTime

open CivilDateTime (InCalendar)

def Outcomes.moments : Outcomes → List ZonedDateTime
  | .ok res => res.toList
  | .error _ => []

/-! ## Moments of a region -/

theorem ZoneState.IsRegion.unique {key : String} {t : LocalType} {s s' : ZoneState} (h : s.IsRegion key t)
    (h' : s'.IsRegion key t) : s = s' := by
  obtain ⟨o, rfl, ho⟩ := h
  obtain ⟨o', rfl, ho'⟩ := h'
  rw [Offset.ext (ho.trans ho'.symm)]

/-- At one second a region shows a reading by one moment only. -/
theorem ZonedDateTime.ReadsIn.unique {c : Timeline} {key : String} {x : CivilDateTime} {m n : ZonedDateTime}
    (hm : m.ReadsIn c key x) (hn : n.ReadsIn c key x) (same : m.utc.timestamp = n.utc.timestamp) : m = n := by
  have utc : m.utc = n.utc :=
    CivilDateTime.ext_timestamp same (hm.reads.nanosecond.trans hn.reads.nanosecond.symm)
  have state : m.state = n.state := hm.state.unique (same ▸ hn.state)
  obtain ⟨_, _⟩ := m
  obtain ⟨_, _⟩ := n
  cases utc; cases state
  rfl

/-- An exact outcome has a moment of the proper form for each second that passes the test. -/
theorem Exhausts.moments {shows : Int → Prop} {proper : ZonedDateTime → Prop} {out : Outcomes}
    (h : Exhausts shows proper out) :
    (∀ m ∈ Outcomes.moments out, proper m ∧ shows m.utc.timestamp) ∧
      ∀ t, shows t → ∃ m ∈ Outcomes.moments out, m.utc.timestamp = t := by
  cases h with
  | skipped never => exact ⟨fun m hm => (by cases hm), fun t ht => absurd ht (never t)⟩
  | single m hm only =>
    refine ⟨fun n hn => ?_, fun t ht => ⟨m, List.mem_singleton.mpr rfl, ((only t).mp ht).symm⟩⟩
    rw [List.mem_singleton.mp hn]
    exact ⟨hm, (only _).mpr rfl⟩
  | ambiguous a b ha hb less only =>
    refine ⟨fun n hn => ?_, fun t ht => ?_⟩
    · simp only [Outcomes.moments, Resolution.toList, List.mem_cons, List.not_mem_nil, or_false] at hn
      rcases hn with rfl | rfl
      · exact ⟨ha, (only _).mpr (.inl rfl)⟩
      · exact ⟨hb, (only _).mpr (.inr rfl)⟩
    · rcases (only t).mp ht with rfl | rfl
      · exact ⟨a, by simp [Outcomes.moments, Resolution.toList], rfl⟩
      · exact ⟨b, by simp [Outcomes.moments, Resolution.toList], rfl⟩

namespace Zone

variable {w : World} {x : CivilDateTime} {r : Region}

/-- A moment that a region of faithful records makes from UTC is in the state of the local time in force. -/
theorem isRegion_of_momentOfUtc (faithful : r.data.Faithful) {u : CivilDateTime} {m : ZonedDateTime}
    (h : ((region r).momentOfUtc w u).result = .ok m) :
    m.utc = u ∧ m.state.IsRegion r.key (r.data.clock u.timestamp) := by
  obtain ⟨rfl, hs⟩ := momentOfUtc_eq_ok.mp h
  obtain ⟨o, ho, state⟩ := Traced.result_bind_eq_ok.mp hs
  have state : ZoneState.region o = m.state := Except.ok.inj state
  exact ⟨rfl, state ▸ Region.isRegion_of_offsetOfUtc faithful ho⟩

/-- The clock of a region of faithful records shows a reading when a moment made from UTC does. -/
theorem readsIn_of_momentOfUtc (faithful : r.data.Faithful) {m : ZonedDateTime}
    (h : ((region r).momentOfUtc w m.utc).result = .ok m) (reads : m.Reads x) :
    m.ReadsIn r.data.clock r.key x := by
  obtain ⟨-, state⟩ := isRegion_of_momentOfUtc faithful h
  obtain ⟨o, region, offset⟩ := state
  have seconds := reads.seconds
  rw [region] at seconds
  refine ⟨reads, ?_, ⟨o, region, offset⟩⟩
  unfold Timeline.Shows
  rw [← offset]
  exact seconds

/-- A region of faithful records makes a moment from every reading in UTC that is shown in the calendar. -/
theorem exists_momentOfUtc (w : World) (faithful : r.data.Faithful) (bounded : r.data.FindsBelowDay)
    (inside : x.Inside 86400) : ∃ m, ((region r).momentOfUtc w x).result = .ok m := by
  have below := bounded.clock x.timestamp
  have lo := below.1; have hi := below.2
  obtain ⟨left, right⟩ := inside
  obtain ⟨o, ho⟩ := Region.exists_offsetOfUtc faithful below (by unfold InCalendar; omega)
  exact ⟨⟨x, .region o⟩, momentOfUtc_eq_ok.mpr ⟨rfl, Traced.result_bind_of_ok ho⟩⟩

end Zone

/-! ## Zones that agree with themselves -/

/-- The moments that a zone finds for a reading are those that show it and that the zone makes from UTC,
which it can do at every moment within a day of the reading. -/
structure Zone.Agrees (w : World) (z : Zone) (x : CivilDateTime) : Prop where
  found : ∀ m, m ∈ Outcomes.moments (z.resolve w x).result ↔ m.Reads x ∧ (z.momentOfUtc w m.utc).result = .ok m
  made : ∀ u : CivilDateTime, (u.timestamp - x.timestamp).natAbs < 86400 → ∃ m, (z.momentOfUtc w u).result = .ok m
  ordered : ∀ a b, (z.resolve w x).result = .ok (.ambiguous a b) → a.utc.timestamp < b.utc.timestamp

namespace Zone

section Agrees

variable {w : World} {z : Zone} {x : CivilDateTime}

theorem Agrees.distinct (h : z.Agrees w x) {a b : ZonedDateTime} (ab : (z.resolve w x).result = .ok (.ambiguous a b)) :
    a.state.offset ≠ b.state.offset := by
  have mem : a ∈ Outcomes.moments (z.resolve w x).result ∧ b ∈ Outcomes.moments (z.resolve w x).result := by
    rw [ab]
    simp [Outcomes.moments, Resolution.toList]
  have readsA := ((h.found a).mp mem.1).1.seconds
  have readsB := ((h.found b).mp mem.2).1.seconds
  have less := h.ordered a b ab
  intro same
  rw [same] at readsA
  omega

theorem agrees_of_onlyState {s : ZoneState} (only : z.onlyState? = some s) (inside : x.Inside 86400) : z.Agrees w x := by
  have candidates : (z.candidates w x).result = .ok (.single s) := by
    rw [candidates_of_onlyState only, Traced.pure_result]
  have always (u : CivilDateTime) : (z.stateOfUtc w u).result = .ok s := by
    rw [stateOfUtc_of_onlyState only, Traced.pure_result]
  have lo := s.offset.neg_day_lt; have hi := s.offset.lt_day
  obtain ⟨left, right⟩ := inside
  obtain ⟨n, hn⟩ := exists_momentIn (x := x) (s := s) (by unfold InCalendar; omega)
  have resolved := resolve_of_single candidates hn
  refine ⟨fun m => ?_, fun u _ => ⟨⟨u, s⟩, momentOfUtc_eq_ok.mpr ⟨rfl, always u⟩⟩, fun a b ab => ?_⟩
  · rw [resolved, momentOfUtc_eq_ok]
    constructor
    · intro mem
      rw [List.mem_singleton.mp mem]
      obtain ⟨state, reads⟩ := momentIn_eq_ok.mp hn
      exact ⟨reads, rfl, state ▸ always _⟩
    · rintro ⟨reads, -, state⟩
      have same : (momentIn x s).result = .ok m :=
        momentIn_eq_ok.mpr ⟨Except.ok.inj (state.symm.trans (always _)), reads⟩
      rw [hn] at same
      exact List.mem_singleton.mpr (Except.ok.inj same).symm
  · rw [resolved] at ab
    cases ab

end Agrees

variable {w : World} {x : CivilDateTime} {r : Region}

theorem agrees_of_faithful (faithful : r.data.Faithful) (bounded : r.data.FindsBelowDay) (inside : x.Inside 172800) :
    (region r).Agrees w x := by
  obtain ⟨left, right⟩ := inside
  have near : x.Inside 86400 := by unfold CivilDateTime.Inside; omega
  have exhausts := Region.resolve_exhausts w faithful bounded near
  obtain ⟨proper, complete⟩ := exhausts.moments
  have made (u : CivilDateTime) (close : (u.timestamp - x.timestamp).natAbs < 86400) :
      ∃ m, ((region r).momentOfUtc w u).result = .ok m :=
    exists_momentOfUtc w faithful bounded (by unfold CivilDateTime.Inside; omega)
  refine ⟨fun m => ?_, made, fun a b ab => ?_⟩
  · constructor
    · intro mem
      obtain ⟨readsIn, -⟩ := proper m mem
      have lo := m.state.offset.neg_day_lt; have hi := m.state.offset.lt_day
      have seconds := readsIn.reads.seconds
      obtain ⟨n, hn⟩ := made m.utc (by omega)
      obtain ⟨utc, state⟩ := isRegion_of_momentOfUtc faithful hn
      -- both are in the state that the region has at that second
      have same : n = m := by
        obtain ⟨_, _⟩ := n
        cases utc
        cases readsIn.state.unique state
        rfl
      exact ⟨readsIn.reads, same ▸ hn⟩
    · rintro ⟨reads, hm⟩
      have readsIn := readsIn_of_momentOfUtc faithful hm reads
      obtain ⟨n, mem, at_⟩ := complete _ readsIn.shows
      obtain ⟨found, -⟩ := proper n mem
      rwa [found.unique readsIn at_] at mem
  · rw [ab] at exhausts
    cases exhausts
    assumption

def IsListed : Zone → Prop
  | utc | fixed _ => True
  | region r => r.data.IsListed
  | _ => False

theorem agrees_of_isListed {z : Zone} (listed : z.IsListed) (inside : x.Inside 172800) : z.Agrees w x := by
  have near : x.Inside 86400 := by unfold CivilDateTime.Inside at *; omega
  cases z with
  | utc => exact agrees_of_onlyState rfl near
  | fixed o => exact agrees_of_onlyState rfl near
  | region r => exact agrees_of_faithful listed.faithful listed.findsBelowDay inside
  | system => exact listed.elim
  | custom => exact listed.elim

end Zone

end CivilTime
