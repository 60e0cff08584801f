/-
  CivilTime.Proofs.Timeline — what an exact answer to a clock reading is.

  A timeline says which kind of local time is in force at every second of UTC; a clock that follows
  it shows a reading at some seconds, at none, one or two of them. An outcome is the inverse image
  of a reading (`InverseImage`) if it fails just when the reading is never shown, is single just
  when it is shown once, is ambiguous just when it is shown twice, and names the moments at which
  that happens, each in the state the timeline has then.

  `Exhausts` is the same thing said case by case, which is how outcomes are found to be exact;
  `Exhausts.inverseImage` goes from there to the equivalences.
-/

import CivilTime.Proofs.Shifting
import CivilTime.Zone

namespace CivilTime

open CivilDateTime (InCalendar)

/-- Alike are two kinds of local time that no value tells apart. -/
def LocalType.Alike (a b : LocalType) : Prop := a.offset = b.offset ∧ a.name = b.name

def LocalType.BelowDay (t : LocalType) : Prop := -86400 < t.offset ∧ t.offset < 86400

instance (t : LocalType) : Decidable t.BelowDay := inferInstanceAs (Decidable (_ ∧ _))

/-- The kind of local time in force at each second of UTC. -/
abbrev Timeline := Int → LocalType

/-- A clock that follows the timeline shows the reading `w` at the second `t`. -/
def Timeline.Shows (c : Timeline) (w t : Int) : Prop := t + (c t).offset = w

instance (c : Timeline) (w t : Int) : Decidable (c.Shows w t) := inferInstanceAs (Decidable (_ = _))

def CivilDateTime.Inside (x : CivilDateTime) (margin : Int) : Prop :=
  -62135596800 + margin ≤ x.timestamp ∧ x.timestamp + margin ≤ 253402300800

instance (x : CivilDateTime) (margin : Int) : Decidable (x.Inside margin) :=
  inferInstanceAs (Decidable (_ ∧ _))

structure ZonedDateTime.Reads (m : ZonedDateTime) (x : CivilDateTime) : Prop where
  seconds : m.utc.timestamp + m.state.offset.seconds = x.timestamp
  nanosecond : m.utc.time.nanosecond = x.time.nanosecond

/-- The state is that of the region with a key while a kind of local time is in force. -/
def ZoneState.IsRegion (key : String) (t : LocalType) (s : ZoneState) : Prop :=
  ∃ o : Offset, s = .region ⟨o, key, some t.name⟩ ∧ o.seconds = t.offset

structure ZonedDateTime.ReadsIn (m : ZonedDateTime) (c : Timeline) (key : String) (x : CivilDateTime) :
    Prop where
  reads : m.Reads x
  shows : c.Shows x.timestamp m.utc.timestamp
  state : m.state.IsRegion key (c m.utc.timestamp)

abbrev Outcomes := Except Fault (Resolution ZonedDateTime)

/-- The outcome tells at how many seconds the reading `x` is shown, and at which. -/
structure InverseImage (c : Timeline) (key : String) (x : CivilDateTime) (out : Outcomes) : Prop where
  skipped_iff : out = .error (.failure .invalidDateTime) ↔ ¬ ∃ t, c.Shows x.timestamp t
  single_iff : (∃ m, out = .ok (.single m)) ↔ ∃ t, ∀ v, c.Shows x.timestamp v ↔ v = t
  single_reads : ∀ m, out = .ok (.single m) → m.ReadsIn c key x
  ambiguous_iff : (∃ a b, out = .ok (.ambiguous a b)) ↔
    ∃ t u, t < u ∧ ∀ v, c.Shows x.timestamp v ↔ v = t ∨ v = u
  ambiguous_reads : ∀ a b, out = .ok (.ambiguous a b) →
    a.utc.timestamp < b.utc.timestamp ∧ a.ReadsIn c key x ∧ b.ReadsIn c key x

/-- The outcome names just the seconds that pass a test, by moments of a certain form. -/
inductive Exhausts (shows : Int → Prop) (proper : ZonedDateTime → Prop) : Outcomes → Prop
  | skipped : (∀ t, ¬ shows t) → Exhausts shows proper (.error (.failure .invalidDateTime))
  | single (m : ZonedDateTime) : proper m → (∀ t, shows t ↔ t = m.utc.timestamp) →
      Exhausts shows proper (.ok (.single m))
  | ambiguous (a b : ZonedDateTime) : proper a → proper b → a.utc.timestamp < b.utc.timestamp →
      (∀ t, shows t ↔ t = a.utc.timestamp ∨ t = b.utc.timestamp) →
      Exhausts shows proper (.ok (.ambiguous a b))

/-! ## Alike -/

theorem LocalType.Alike.refl (a : LocalType) : a.Alike a := ⟨rfl, rfl⟩

theorem LocalType.Alike.symm {a b : LocalType} (h : a.Alike b) : b.Alike a := ⟨h.1.symm, h.2.symm⟩

theorem LocalType.Alike.trans {a b c : LocalType} (h : a.Alike b) (g : b.Alike c) : a.Alike c :=
  ⟨h.1.trans g.1, h.2.trans g.2⟩

theorem LocalType.Alike.belowDay {a b : LocalType} (h : a.Alike b) (hb : b.BelowDay) : a.BelowDay := by
  unfold LocalType.BelowDay; rw [h.1]; exact hb

theorem Timeline.Shows.congr {c d : Timeline} {w t : Int} (h : (c t).Alike (d t)) :
    c.Shows w t ↔ d.Shows w t := by
  unfold Timeline.Shows; rw [h.1]

theorem ZoneState.IsRegion.congr {key : String} {a b : LocalType} {s : ZoneState} (h : a.Alike b)
    (hs : s.IsRegion key a) : s.IsRegion key b := by
  obtain ⟨o, rfl, ho⟩ := hs
  exact ⟨o, by rw [h.2], ho.trans h.1⟩

/-! ## Exact outcomes -/

namespace Exhausts

variable {shows : Int → Prop} {proper : ZonedDateTime → Prop} {out : Outcomes}

theorem skipped_iff (h : Exhausts shows proper out) :
    out = .error (.failure .invalidDateTime) ↔ ¬ ∃ t, shows t := by
  cases h with
  | skipped never => simpa using never
  | single m _ only => simpa using ⟨_, (only _).mpr rfl⟩
  | ambiguous a b _ _ _ only => simpa using ⟨_, (only _).mpr (.inl rfl)⟩

theorem single_iff (h : Exhausts shows proper out) :
    (∃ m, out = .ok (.single m)) ↔ ∃ t, ∀ v, shows v ↔ v = t := by
  cases h with
  | skipped never =>
    refine ⟨fun ⟨m, h⟩ => (by cases h), fun ⟨t, h⟩ => ?_⟩
    exact absurd ((h t).mpr rfl) (never t)
  | single m _ only => exact ⟨fun _ => ⟨_, only⟩, fun _ => ⟨m, rfl⟩⟩
  | ambiguous a b _ _ less only =>
    refine ⟨fun ⟨m, h⟩ => (by cases h), fun ⟨t, h⟩ => ?_⟩
    have ha := (h _).mp ((only _).mpr (.inl rfl))
    have hb := (h _).mp ((only _).mpr (.inr rfl))
    omega

theorem ambiguous_iff (h : Exhausts shows proper out) :
    (∃ a b, out = .ok (.ambiguous a b)) ↔ ∃ t u, t < u ∧ ∀ v, shows v ↔ v = t ∨ v = u := by
  cases h with
  | skipped never =>
    refine ⟨fun ⟨a, b, h⟩ => (by cases h), fun ⟨t, u, _, h⟩ => ?_⟩
    exact absurd ((h t).mpr (.inl rfl)) (never t)
  | single m _ only =>
    refine ⟨fun ⟨a, b, h⟩ => (by cases h), fun ⟨t, u, less, h⟩ => ?_⟩
    have ht := (only t).mp ((h t).mpr (.inl rfl))
    have hu := (only u).mp ((h u).mpr (.inr rfl))
    omega
  | ambiguous a b _ _ less only => exact ⟨fun _ => ⟨_, _, less, only⟩, fun _ => ⟨a, b, rfl⟩⟩

/-- The cases exclude one another, so each is met just when its condition holds. -/
theorem inverseImage {c : Timeline} {key : String} {x : CivilDateTime}
    (h : Exhausts (c.Shows x.timestamp) (·.ReadsIn c key x) out) : InverseImage c key x out where
  skipped_iff := h.skipped_iff
  single_iff := h.single_iff
  single_reads m e := by subst e; cases h; assumption
  ambiguous_iff := h.ambiguous_iff
  ambiguous_reads a b e := by subst e; cases h; exact ⟨‹_›, ‹_›, ‹_›⟩

/-- An outcome stays exact when the test and the form are replaced by others that agree with them. -/
theorem mono {shows' : Int → Prop} {proper' : ZonedDateTime → Prop} (h : Exhausts shows proper out)
    (hs : ∀ t, shows' t ↔ shows t) (hp : ∀ m, proper m → proper' m) : Exhausts shows' proper' out := by
  cases h with
  | skipped never => exact .skipped fun t ht => never t ((hs t).mp ht)
  | single m hm only => exact .single m (hp m hm) fun t => (hs t).trans (only t)
  | ambiguous a b ha hb less only =>
    exact .ambiguous a b (hp a ha) (hp b hb) less fun t => (hs t).trans (only t)

end Exhausts

/-! ## From candidates to moments -/

theorem ZonedDateTime.Reads.timestamp_eq {m : ZonedDateTime} {x : CivilDateTime} {s : ZoneState}
    (h : m.Reads x) (state : m.state = s) : m.utc.timestamp = x.timestamp - s.offset.seconds := by
  have := h.seconds
  rw [state] at this; omega

/-- A moment shows the reading that is its local form. -/
theorem ZonedDateTime.localForm_eq_ok {m : ZonedDateTime} {x : CivilDateTime} :
    m.localForm = .ok x ↔ m.Reads x := by
  unfold localForm CivilDateTime.toLocal
  rw [CivilDateTime.shift_eq_ok_iff]
  constructor
  · rintro ⟨seconds, nano⟩
    exact ⟨seconds.symm, nano.symm⟩
  · intro h
    exact ⟨h.seconds.symm, h.nanosecond.symm⟩

/-- A moment shows a reading if the calendar has one for it. -/
theorem ZonedDateTime.exists_reads {m : ZonedDateTime}
    (inside : InCalendar (m.utc.timestamp + m.state.offset.seconds)) : ∃ x, m.Reads x := by
  obtain ⟨x, hx⟩ := CivilDateTime.exists_shift_iff.mpr inside
  exact ⟨x, localForm_eq_ok.mp hx⟩

namespace Zone

variable {w : World} {z : Zone} {x : CivilDateTime} {shows : Int → Prop} {proper : ZonedDateTime → Prop}

/-- The moment that a reading is in a state is in this state, and shows the reading. -/
theorem momentIn_eq_ok {s : ZoneState} {m : ZonedDateTime} :
    (momentIn x s).result = .ok m ↔ m.state = s ∧ m.Reads x := by
  simp only [momentIn, Traced.result_bind_eq_ok, Traced.of_result_eq_ok, Traced.pure_result, Except.ok.injEq]
  constructor
  · rintro ⟨u, hu, rfl⟩
    obtain ⟨seconds, nano⟩ := CivilDateTime.toUtc_eq_ok_iff.mp hu
    exact ⟨rfl, seconds, nano⟩
  · rintro ⟨rfl, reads⟩
    exact ⟨m.utc, CivilDateTime.toUtc_eq_ok_iff.mpr ⟨reads.seconds, reads.nanosecond⟩, rfl⟩

theorem exists_momentIn {s : ZoneState} (h : InCalendar (x.timestamp - s.offset.seconds)) :
    ∃ m, (momentIn x s).result = .ok m := by
  obtain ⟨u, hu, seconds, nano⟩ := CivilDateTime.exists_toUtc h
  have reads : u.timestamp + s.offset.seconds = x.timestamp := by omega
  refine ⟨⟨u, s⟩, ?_⟩
  rw [momentIn_eq_ok]
  exact ⟨rfl, reads, nano⟩

/-- The moment that a reading in UTC is has the state that the zone has then. -/
theorem momentOfUtc_eq_ok {m : ZonedDateTime} :
    (z.momentOfUtc w x).result = .ok m ↔ m.utc = x ∧ (z.stateOfUtc w x).result = .ok m.state := by
  unfold momentOfUtc
  rw [Traced.result_bind_eq_ok]
  constructor
  · intro h
    obtain ⟨s, hs, made⟩ := h
    cases made
    exact ⟨rfl, hs⟩
  · intro h
    obtain ⟨rfl, hs⟩ := h
    exact ⟨m.state, hs, rfl⟩

theorem resolve_of_error {e : Fault} (h : (z.candidates w x).result = .error e) :
    (z.resolve w x).result = .error e := by
  unfold resolve; rw [Traced.bind_of_error h]

theorem resolve_of_single {s : ZoneState} {m : ZonedDateTime}
    (h : (z.candidates w x).result = .ok (.single s)) (hm : (momentIn x s).result = .ok m) :
    (z.resolve w x).result = .ok (.single m) := by
  unfold resolve
  rw [Traced.result_bind_of_ok h]
  exact Traced.result_bind_of_ok hm

theorem resolve_of_ambiguous {s t : ZoneState} {m n : ZonedDateTime}
    (h : (z.candidates w x).result = .ok (.ambiguous s t)) (hm : (momentIn x s).result = .ok m)
    (hn : (momentIn x t).result = .ok n) : (z.resolve w x).result = .ok (.ambiguous m n) := by
  unfold resolve
  rw [Traced.result_bind_of_ok h]
  refine (Traced.result_bind_of_ok hm).trans ?_
  exact Traced.result_bind_of_ok hn

/-- A zone that has one candidate for a reading answers exactly, if the candidate's is the one second
at which the reading is shown. -/
theorem exhausts_of_single {s : ZoneState} (h : (z.candidates w x).result = .ok (.single s))
    (inside : InCalendar (x.timestamp - s.offset.seconds))
    (hs : ∀ m : ZonedDateTime, m.Reads x → m.state = s → proper m)
    (only : ∀ t, shows t ↔ t = x.timestamp - s.offset.seconds) :
    Exhausts shows proper (z.resolve w x).result := by
  obtain ⟨m, hm⟩ := exists_momentIn inside
  obtain ⟨state, reads⟩ := momentIn_eq_ok.mp hm
  rw [resolve_of_single h hm]
  refine .single m (hs m reads state) fun t => ?_
  rw [only, reads.timestamp_eq state]

/-- A zone that has two candidates for a reading answers exactly, if theirs are the two seconds at
which the reading is shown, the earlier one first. -/
theorem exhausts_of_ambiguous {s s' : ZoneState} (h : (z.candidates w x).result = .ok (.ambiguous s s'))
    (inside : InCalendar (x.timestamp - s.offset.seconds)) (inside' : InCalendar (x.timestamp - s'.offset.seconds))
    (less : s'.offset.seconds < s.offset.seconds)
    (hs : ∀ m : ZonedDateTime, m.Reads x → m.state = s → proper m)
    (hs' : ∀ m : ZonedDateTime, m.Reads x → m.state = s' → proper m)
    (only : ∀ t, shows t ↔ t = x.timestamp - s.offset.seconds ∨ t = x.timestamp - s'.offset.seconds) :
    Exhausts shows proper (z.resolve w x).result := by
  obtain ⟨m, hm⟩ := exists_momentIn inside
  obtain ⟨n, hn⟩ := exists_momentIn inside'
  obtain ⟨state, reads⟩ := momentIn_eq_ok.mp hm
  obtain ⟨state', reads'⟩ := momentIn_eq_ok.mp hn
  rw [resolve_of_ambiguous h hm hn]
  refine .ambiguous m n (hs m reads state) (hs' n reads' state') ?_ fun t => ?_
  · rw [reads.timestamp_eq state, reads'.timestamp_eq state']; omega
  · rw [only, reads.timestamp_eq state, reads'.timestamp_eq state']

end Zone

end CivilTime
