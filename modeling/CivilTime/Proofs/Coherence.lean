/-
  CivilTime.Proofs.Coherence — moments that their own zone would make again.

  A moment stands for its reading in UTC, and beside it stands the state that its zone was found in.
  It is coherent if the zone of that state, asked from UTC, answers this state. A moment made from
  UTC is, since the zone was asked this very question. A moment made from a reading is, if what the
  zone answers to readings agrees with what it answers to moments of UTC: for the system's zone
  this holds of every rule, and of a region if its records are regular (`RegionData.IsRegular`).

  Every way of making a moment leads back to these two, so that sound moments (`ZonedDateTime.Sound`)
  in zones that programs can know (`Zone.Known`) are a closed law (`closed_soundLaw`).
-/

import CivilTime.Proofs.Law
import CivilTime.Proofs.Region.Season
import CivilTime.Proofs.Region.Table
import CivilTime.Proofs.System.Search

namespace CivilTime

/-! ## Coherent moments -/

/-- The records of a region are regular: changes in a list and nothing after them, or a rule and
nothing before it. -/
def RegionData.IsRegular (d : RegionData) : Prop := d.IsTable ∨ d.size = 0 ∧ d.after.IsRegular

/-- The zone of a state is the system's, UTC, a fixed one or a region with regular records. -/
def ZoneState.Covered (w : World) : ZoneState → Prop
  | utc | fixed _ | system _ => True
  | region o => ∀ r, w.region o.key = .ok r → r.data.IsRegular
  | custom _ => False

/-- The zone is one that the library defines; of a region, it is the one with its key. -/
def Zone.Known (w : World) : Zone → Prop
  | utc | fixed _ | system => True
  | region r => w.region r.key = .ok r
  | custom => False

def ZoneState.Native : ZoneState → Prop
  | custom _ => False
  | _ => True

namespace ZonedDateTime

/-- The zone of a moment, asked again, finds the moment in its state. -/
def Coherent (w : World) (m : ZonedDateTime) : Prop :=
  ∃ z, (Zone.ofState w m.state).result = .ok z ∧ (z.stateOfUtc w m.utc).result = .ok m.state ∧
    (m.inZone w z).result = .ok m

/-- The moment is one that a program may come upon. -/
structure Sound (w : World) (m : ZonedDateTime) : Prop where
  native : m.state.Native
  coherent : m.state.Covered w → m.Coherent w

end ZonedDateTime

/-! ## Zones and their states -/

theorem World.region_key {w : World} {key : String} {r : Region} (h : w.region key = .ok r) : r.key = key := by
  obtain ⟨_, -, h⟩ := except_bind_eq_ok.mp h
  split at h
  · cases h; rfl
  · cases h

theorem Zone.known_region {w : World} {key : String} {r : Region} (h : w.region key = .ok r) :
    (Zone.region r).Known w := by
  show w.region r.key = .ok r
  rw [World.region_key h]; exact h

namespace Zone

variable {w : World} {z : Zone} {s : ZoneState} {x : CivilDateTime} {m : ZonedDateTime}

/-- The zone of a native state is known. -/
theorem known_ofState (native : s.Native) : (ofState w s).Ensures (·.Known w) := by
  cases s with
  | utc => exact Traced.ensures_pure trivial
  | fixed o => exact Traced.ensures_pure trivial
  | system o => exact Traced.ensures_pure trivial
  | custom o => exact native.elim
  | region o =>
    exact Traced.ensures_bind (Traced.ensures_lift fun r h => known_region h) fun r known => Traced.ensures_pure known

/-- A state found from UTC leads back to the zone. -/
theorem ofState_of_stateOfUtc (known : z.Known w) (h : (z.stateOfUtc w x).result = .ok s) :
    s.Native ∧ (ofState w s).result = .ok z := by
  cases z with
  | utc => cases h; exact ⟨trivial, rfl⟩
  | fixed o => cases h; exact ⟨trivial, rfl⟩
  | system =>
    obtain ⟨o, ho, hs⟩ := Traced.result_bind_eq_ok.mp h
    cases hs
    exact ⟨trivial, rfl⟩
  | region r =>
    obtain ⟨o, ho, hs⟩ := Traced.result_bind_eq_ok.mp h
    cases hs
    obtain ⟨-, offset⟩ := Region.offsetOfUtc_eq_ok.mp ho
    have key : o.key = r.key := (Region.offsetOf_eq_ok.mp offset).2.1
    refine ⟨trivial, Traced.result_bind_of_ok (Traced.lift_result_eq_ok.mpr ?_)⟩
    rw [key]; exact known
  | custom => exact known.elim

/-- A state found from UTC belongs to the zone, which finds it again. -/
theorem coherent_of_stateOfUtc (known : z.Known w) (h : (z.stateOfUtc w m.utc).result = .ok m.state) :
    m.state.Native ∧ m.Coherent w := by
  obtain ⟨native, zone⟩ := ofState_of_stateOfUtc known h
  have again : (m.inZone w z).result = .ok m := Traced.result_bind_of_ok h
  exact ⟨native, z, zone, h, again⟩

/-- A state that a reading may have is found again at the moment that the reading is in it. -/
theorem stateOfUtc_of_candidates {res : Resolution ZoneState} (known : z.Known w)
    (h : (z.candidates w x).result = .ok res) (hs : m.state ∈ res.toList) (covered : m.state.Covered w)
    (reads : m.Reads x) : (z.stateOfUtc w m.utc).result = .ok m.state := by
  obtain ⟨utc, state⟩ := m
  cases z with
  | utc => cases h; rw [List.mem_singleton.mp hs]; rfl
  | fixed o => cases h; rw [List.mem_singleton.mp hs]; rfl
  | custom => exact known.elim
  | system =>
    obtain ⟨offsets, ho, h⟩ := Traced.result_bind_eq_ok.mp h
    cases h
    obtain ⟨o, mem, rfl⟩ := Resolution.mem_toList_map.mp hs
    refine Traced.result_bind_of_ok (System.of_orInvalid_eq_ok.mpr ?_)
    rw [reads.timestamp_eq rfl]
    exact System.offset_of_candidates ho o mem
  | region r =>
    obtain ⟨offsets, ho, h⟩ := Traced.result_bind_eq_ok.mp h
    cases h
    obtain ⟨o, mem, rfl⟩ := Resolution.mem_toList_map.mp hs
    -- the state names the region by its key, so it is this region whose records are regular
    have key : o.key = r.key := Region.key_of_candidates ho mem
    refine Traced.result_bind_of_ok ?_
    rcases covered r (key ▸ known) with table | ⟨empty, regular⟩
    · exact Region.offset_of_candidates table.faithful ho mem (reads.timestamp_eq rfl)
    · exact Region.offset_of_candidates_of_rule empty regular ho mem (reads.timestamp_eq rfl)

/-! ## Moments -/

theorem sound_of_stateOfUtc (known : z.Known w) (h : (z.stateOfUtc w m.utc).result = .ok m.state) : m.Sound w :=
  ⟨(coherent_of_stateOfUtc known h).1, fun _ => (coherent_of_stateOfUtc known h).2⟩

/-- The states that a zone finds for readings are native ones. -/
theorem native_candidates (known : z.Known w) (x : CivilDateTime) :
    (z.candidates w x).Ensures fun res => ∀ s ∈ res.toList, s.Native := by
  cases z with
  | utc =>
    refine Traced.ensures_pure fun s hs => ?_
    rw [List.mem_singleton.mp hs]; trivial
  | fixed o =>
    refine Traced.ensures_pure fun s hs => ?_
    rw [List.mem_singleton.mp hs]; trivial
  | system =>
    refine Traced.ensures_then fun res => Traced.ensures_pure fun s hs => ?_
    obtain ⟨o, -, rfl⟩ := Resolution.mem_toList_map.mp hs
    trivial
  | region r =>
    refine Traced.ensures_then fun res => Traced.ensures_pure fun s hs => ?_
    obtain ⟨o, -, rfl⟩ := Resolution.mem_toList_map.mp hs
    trivial
  | custom => exact known.elim

/-- A moment that a reading is in one of the states found for it is sound. -/
theorem sound_momentIn {res : Resolution ZoneState} (known : z.Known w) (h : (z.candidates w x).result = .ok res)
    (hs : s ∈ res.toList) : (momentIn x s).Ensures (·.Sound w) := by
  intro m hm
  obtain ⟨rfl, reads⟩ := momentIn_eq_ok.mp hm
  refine ⟨native_candidates known x res h _ hs, fun covered => ?_⟩
  exact (coherent_of_stateOfUtc known (stateOfUtc_of_candidates known h hs covered reads)).2

/-- Of a date, a known zone is asked for its midnight. -/
theorem dateCandidates_eq (known : z.Known w) (d : CivilDate) :
    z.dateCandidates w d = z.candidates w (.startOf d) ∧ z.stateOfUtcDate w d = z.stateOfUtc w (.startOf d) := by
  cases z with
  | custom => exact known.elim
  | _ => exact ⟨rfl, rfl⟩

end Zone

/-! ## The law of sound moments -/

def soundLaw (w : World) : Law where
  zone := Zone.Known w
  state := ZoneState.Native
  moment := ZonedDateTime.Sound w

theorem closed_soundLaw (w : World) : (soundLaw w).Closed w where
  utc := trivial
  fixed _ := trivial
  region _ _ h := Zone.known_region h
  ofState _ native := Zone.known_ofState native
  state _ sound := sound.native
  stateOfUtcDate z d known := by
    rw [(Zone.dateCandidates_eq known d).2]
    intro s h
    exact (Zone.sound_of_stateOfUtc (m := ⟨.startOf d, s⟩) known h).native
  dateCandidates z d known := by
    rw [(Zone.dateCandidates_eq known d).1]
    exact Zone.native_candidates known _
  ofUtc _ _ _ known h := Zone.sound_of_stateOfUtc known h
  ofLocal _ _ _ _ known found hs := Zone.sound_momentIn known found hs

end CivilTime
