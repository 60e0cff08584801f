/-
  CivilTime.Proofs.Parsing — moments read from texts that give an offset.

  An offset in a text fixes the moment, and the zone is asked about this moment only, never about
  the reading. Two things follow.
  (1) The text of a moment, written out with its offset, is read as the moment again, in every zone
  (`momentOfText_text`): the offset leads back to the reading in UTC, and there the zone answers
  what it answered before.
  (2) Where a zone's answers to readings agree with its answers to moments of UTC (`Zone.Agrees`), the
  moment that an offset fixes is the one of the reading's moments that has the offset
  (`Agrees.mem_moments_iff`). So the offset selects among them (`Selected`): the text is read as this one,
  and refused if none has it. UTC, fixed offsets and regions with a list of changes are such zones
  (`momentOfText_selects`).
-/

import CivilTime.Proofs.Moments
import CivilTime.Proofs.Pattern.Written

namespace CivilTime

open CivilDateTime (InCalendar)
open Pattern (Parsed stampFormat)

/-! ## From a text to a moment -/

namespace Pattern

theorem Fields.offset_of_resolve {f : Fields} {parsed : Parsed} (h : f.resolve = .ok parsed) {e : Int}
    (explicit : parsed.offsetMicros = some e) : -86400000000 < e ∧ e < 86400000000 := by
  unfold Fields.resolve at h
  obtain ⟨-, -, h⟩ := except_bind_eq_ok.mp h
  obtain ⟨⟨y, m, d⟩, -, h⟩ := except_bind_eq_ok.mp h
  dsimp only at h
  split at h
  · rename_i o given
    split at h
    · cases h
    · rename_i small
      split at h
      · cases h
        simp only [given, Option.some.injEq] at explicit
        omega
      · cases h
  · rename_i none
    split at h
    · cases h
      simp only [none] at explicit
      cases explicit
    · cases h

/-- An offset that is read is less than a day. -/
theorem offset_of_read {zones : ZoneNames} {text format : String} {parsed : Parsed} {e : Int}
    (h : read zones text format = .ok parsed) (explicit : parsed.offsetMicros = some e) :
    -86400000000 < e ∧ e < 86400000000 := by
  unfold read at h
  obtain ⟨tokens, -, h⟩ := except_bind_eq_ok.mp h
  split at h
  · cases h
  · split at h
    · obtain ⟨fields, -, resolved⟩ := except_bind_eq_ok.mp h
      exact Fields.offset_of_resolve resolved explicit
    · cases h

/-- One of whole seconds is an offset that a zone can have. -/
theorem exists_offset_of_read {zones : ZoneNames} {text format : String} {parsed : Parsed} {e : Int}
    (h : read zones text format = .ok parsed) (explicit : parsed.offsetMicros = some e) (whole : e % 1000000 = 0) :
    ∃ o : Offset, o.seconds * 1000000 = e := by
  obtain ⟨lo, hi⟩ := offset_of_read h explicit
  exact ⟨⟨e / 1000000, by omega, by omega⟩, show e / 1000000 * 1000000 = e by omega⟩

end Pattern

namespace Zone

variable {w : World} {z : Zone}

section Explicit

variable {text format : String} {parsed : Parsed} {e : Int}
  (read : Pattern.read (System.zoneNames w.system) text format = .ok parsed)
  (explicit : parsed.offsetMicros = some e)

include read explicit

theorem momentOfText_eq_fault (fraction : e % 1000000 ≠ 0) :
    z.momentOfText w text format = .fault (.fractionalOffset e) := by
  unfold momentOfText
  rw [read, Traced.lift_ok, pure_bind, explicit]
  exact if_pos fraction

/-- An offset of whole seconds that no zone can have is refused, too. -/
theorem momentOfText_eq_outOfBounds (whole : e % 1000000 = 0) (wide : Offset.ofSeconds? (e / 1000000) = none) :
    z.momentOfText w text format = .fault (.offsetOutOfBounds (e / 1000000)) := by
  unfold momentOfText
  rw [read, Traced.lift_ok, pure_bind, explicit]
  show (if _ then _ else _) = _
  rw [if_neg (not_not_intro whole), wide]

/-- An offset of whole seconds fixes the moment, and the zone has to have this offset there. -/
theorem momentOfText_eq_utc {o : Offset} (seconds : o.seconds * 1000000 = e) : z.momentOfText w text format = do
    let moment ← z.momentOfUtc w (← .of (parsed.reading.toCivil.toUtc o))
    if moment.state.offset ≠ o then .fault (.offsetMismatch o moment.state.offset z.quoted) else return moment := by
  have whole : ¬ e % 1000000 ≠ 0 := by omega
  have same : Offset.ofSeconds? (e / 1000000) = some o := Offset.ofSeconds?_eq_some.mpr (by omega)
  unfold momentOfText
  rw [read, Traced.lift_ok, pure_bind, explicit]
  show (if _ then _ else _) = _
  rw [if_neg whole, same]

theorem momentOfText_of_utc {o : Offset} {u : CivilDateTime} {n : ZonedDateTime} (seconds : o.seconds * 1000000 = e)
    (hu : parsed.reading.toCivil.toUtc o = .ok u) (hn : (z.momentOfUtc w u).result = .ok n) :
    (z.momentOfText w text format).result =
      if n.state.offset = o then .ok n else .error (.offsetMismatch o n.state.offset z.quoted) := by
  rw [momentOfText_eq_utc read explicit seconds, Traced.result_bind_of_ok (Traced.of_result_eq_ok.mpr hu),
    Traced.result_bind_of_ok hn]
  by_cases equal : n.state.offset = o
  · rw [if_pos equal, if_neg (not_not_intro equal)]
    rfl
  · rw [if_neg equal, if_pos equal]
    rfl

end Explicit

end Zone

/-! ## (1) The text of a moment -/

/-- The text of a moment of whole microseconds, with its offset, is read as the moment in its zone. -/
theorem momentOfText_text (w : World) (z : Zone) (u l : CivilDateTime) (m : ZonedDateTime)
    (made : (z.momentOfUtc w u).result = .ok m) (shown : m.localForm = .ok l)
    (ordinary : u.time.nanosecond < 1000000000) (micros : u.time.nanosecond % 1000 = 0) :
    (z.momentOfText w (l.text ++ " " ++ m.state.offset.text) (stampFormat u.time.nanosecond)).result = .ok m := by
  obtain ⟨rfl, -⟩ := Zone.momentOfUtc_eq_ok.mp made
  have nano := (ZonedDateTime.localForm_eq_ok.mp shown).nanosecond
  rw [nano] at ordinary micros ⊢
  have read := Pattern.read_stamp (System.zoneNames w.system) ordinary micros m.state.offset
  have back : l.toMicro.toCivil.toUtc m.state.offset = .ok m.utc := by
    rw [CivilDateTime.toCivil_toMicro ordinary micros]
    exact CivilDateTime.toUtc_of_toLocal shown
  rw [Zone.momentOfText_of_utc read rfl rfl back made, if_pos rfl]

/-- The reading 2023-10-29 01:40:00.123456 in UTC. -/
def lateOctober : CivilDateTime where
  date := secondHourOfAutumn.date
  time := ⟨6000, 123456000, by decide, by decide, by decide, by decide⟩

/-- The same moment on the clocks of Central Europe, which show 02:40 for the second time. -/
def lateOctoberAgain : CivilDateTime where
  date := secondHourOfAutumn.date
  time := { lateOctober.time with secondOfDay := 9600, second_nonneg := by decide, second_lt := by decide }

def winterState : ZoneState := .region ⟨.hourAhead, "Europe/Amsterdam", some "CET"⟩

theorem momentOfText_lateOctober :
    ((Zone.region summer2023).momentOfUtc summerWorld lateOctober).result = .ok ⟨lateOctober, winterState⟩ ∧
      ZonedDateTime.localForm ⟨lateOctober, winterState⟩ = .ok lateOctoberAgain ∧
      lateOctober.time.nanosecond < 1000000000 ∧ lateOctober.time.nanosecond % 1000 = 0 ∧
      ((Zone.region summer2023).momentOfText summerWorld "2023-10-29 02:40:00.123456 +01:00"
        "%Y-%m-%d %H:%M:%S.%f %z").result = .ok ⟨lateOctober, winterState⟩ := by
  have text : lateOctoberAgain.text ++ " " ++ winterState.offset.text = "2023-10-29 02:40:00.123456 +01:00" := by rfl
  have format : stampFormat lateOctober.time.nanosecond = "%Y-%m-%d %H:%M:%S.%f %z" := by rfl
  have made : ((Zone.region summer2023).momentOfUtc summerWorld lateOctober).result =
      .ok ⟨lateOctober, winterState⟩ := rfl
  have shown : ZonedDateTime.localForm ⟨lateOctober, winterState⟩ = .ok lateOctoberAgain := rfl
  refine ⟨made, shown, by decide, by decide, ?_⟩
  rw [← text, ← format]
  exact momentOfText_text summerWorld (.region summer2023) lateOctober lateOctoberAgain ⟨lateOctober, winterState⟩
    made shown (by decide) (by decide)

/-! ## (2) Offsets that select -/

/-- The fault says that a zone does not have an offset, in microseconds, at the moment that it fixes. -/
inductive Fault.RefusesOffset (e : Int) (zone : String) : Fault → Prop
  | fraction : e % 1000000 ≠ 0 → RefusesOffset e zone (.fractionalOffset e)
  | mismatch (parsed actual : Offset) : parsed.seconds * 1000000 = e → actual ≠ parsed →
      RefusesOffset e zone (.offsetMismatch parsed actual zone)

/-- An offset in microseconds selects, among the moments that a reading may be, the one that has it. -/
structure Selected (resolved : Outcomes) (zone : String) (e : Int) (out : Except Fault ZonedDateTime) : Prop where
  selects : ∀ m, out = .ok m ↔ m ∈ Outcomes.moments resolved ∧ m.state.offset.seconds * 1000000 = e
  refuses : (∀ m, out ≠ .ok m) → ∃ f, out = .error f ∧ f.RefusesOffset e zone
  distinct : ∀ a b, resolved = .ok (.ambiguous a b) →
    a.state.offset ≠ b.state.offset ∧ a.utc.timestamp < b.utc.timestamp

namespace Zone

variable {w : World} {z : Zone} {x : CivilDateTime}

/-- The moment of a reading that has an offset is the one that the zone makes where the offset puts it. -/
theorem Agrees.mem_moments_iff (h : z.Agrees w x) {o : Offset} {u : CivilDateTime} {n m : ZonedDateTime}
    (at_ : u.timestamp = x.timestamp - o.seconds) (nano : u.time.nanosecond = x.time.nanosecond)
    (hn : (z.momentOfUtc w u).result = .ok n) :
    m ∈ Outcomes.moments (z.resolve w x).result ∧ m.state.offset = o ↔ n = m ∧ n.state.offset = o := by
  constructor
  · rintro ⟨mem, rfl⟩
    obtain ⟨reads, made⟩ := (h.found m).mp mem
    have same : m.utc = u := by
      have := reads.seconds
      exact CivilDateTime.ext_timestamp (by omega) (reads.nanosecond.trans nano.symm)
    rw [same, hn] at made
    cases made
    exact ⟨rfl, rfl⟩
  · rintro ⟨rfl, rfl⟩
    obtain ⟨rfl, -⟩ := momentOfUtc_eq_ok.mp hn
    exact ⟨(h.found n).mpr ⟨⟨by omega, nano⟩, hn⟩, rfl⟩

/-- An offset in a text for a reading selects among the moments that the reading may be. -/
theorem Agrees.selected {text format : String} {parsed : Parsed} {e : Int}
    (read : Pattern.read (System.zoneNames w.system) text format = .ok parsed)
    (explicit : parsed.offsetMicros = some e) (inside : parsed.reading.toCivil.Inside 86400)
    (h : z.Agrees w parsed.reading.toCivil) :
    Selected (z.resolve w parsed.reading.toCivil).result z.quoted e (z.momentOfText w text format).result := by
  generalize hx : parsed.reading.toCivil = x at inside h
  have distinct (a b : ZonedDateTime) (ab : (z.resolve w x).result = .ok (.ambiguous a b)) :=
    And.intro (h.distinct ab) (h.ordered a b ab)
  -- no moment has an offset with a fraction of a second; one of whole seconds fixes a moment of UTC
  by_cases fraction : e % 1000000 = 0
  · obtain ⟨o, seconds⟩ := Pattern.exists_offset_of_read read explicit fraction
    have has (m : ZonedDateTime) : m.state.offset.seconds * 1000000 = e ↔ m.state.offset = o := by
      rw [Offset.ext_iff]; omega
    have lo := o.neg_day_lt; have hi := o.lt_day
    obtain ⟨left, right⟩ := inside
    obtain ⟨u, utc, at_, nano⟩ := CivilDateTime.exists_toUtc (x := x) (o := o) (by unfold InCalendar; omega)
    obtain ⟨n, hn⟩ := h.made u (by omega)
    have out := momentOfText_of_utc read explicit seconds (hx ▸ utc) hn
    refine ⟨fun m => ?_, fun never => ?_, distinct⟩
    · rw [has, h.mem_moments_iff at_ nano hn, out]
      by_cases equal : n.state.offset = o <;> simp [equal]
    · by_cases equal : n.state.offset = o
      · exact absurd (out.trans (if_pos equal)) (never n)
      · exact ⟨_, out.trans (if_neg equal), .mismatch o _ seconds equal⟩
  · have out : (z.momentOfText w text format).result = .error (.fractionalOffset e) := by
      rw [momentOfText_eq_fault read explicit fraction]
      rfl
    refine ⟨fun m => ?_, fun _ => ⟨_, out, .fraction fraction⟩, distinct⟩
    rw [out]
    constructor
    · rintro ⟨⟩
    · rintro ⟨-, has⟩
      omega

end Zone

/-- In UTC, a fixed offset or a region with a list of changes, an offset in a text for a reading selects
among the moments that the reading may be. -/
theorem momentOfText_selects (w : World) (z : Zone) (text format : String) (parsed : Parsed) (e : Int)
    (listed : z.IsListed) (read : Pattern.read (System.zoneNames w.system) text format = .ok parsed)
    (explicit : parsed.offsetMicros = some e) (inside : parsed.reading.toCivil.Inside 172800) :
    Selected (z.resolve w parsed.reading.toCivil).result z.quoted e (z.momentOfText w text format).result := by
  have near : parsed.reading.toCivil.Inside 86400 := by unfold CivilDateTime.Inside at *; omega
  exact (Zone.agrees_of_isListed listed inside).selected read explicit near

theorem momentOfText_secondHourOfAutumn :
    (Zone.region summer2023).IsListed ∧
      Pattern.read (System.zoneNames summerWorld.system) "2023-10-29 02:30:00 +0100" "%Y-%m-%d %H:%M:%S %z" =
        .ok ⟨secondHourOfAutumn.toMicro, some 3600000000⟩ ∧
      secondHourOfAutumn.toMicro.toCivil.Inside 172800 ∧
      Selected ((Zone.region summer2023).resolve summerWorld secondHourOfAutumn.toMicro.toCivil).result
        (Zone.region summer2023).quoted 3600000000
        ((Zone.region summer2023).momentOfText summerWorld "2023-10-29 02:30:00 +0100" "%Y-%m-%d %H:%M:%S %z").result :=
  ⟨isListed_summer2023, rfl, by decide,
    momentOfText_selects summerWorld (.region summer2023) "2023-10-29 02:30:00 +0100" "%Y-%m-%d %H:%M:%S %z"
      ⟨secondHourOfAutumn.toMicro, some 3600000000⟩ 3600000000 isListed_summer2023 rfl rfl (by decide)⟩

/-- A region whose clocks were put forward by a whole day at the start of 1970. -/
def dayAhead : Region where
  key := "Day/Ahead"
  data :=
    { first := ⟨0, false, "STD"⟩
      before := ⟨0, false, "STD"⟩
      transitions := #[⟨0, ⟨86400, false, "DAY"⟩⟩]
      after := .fixed "DAY" 86400 }

/-- The reading 1970-06-01 00:00:00. -/
def june1970 : CivilDateTime := .startOf ⟨719314, by decide, by decide⟩

theorem isTable_dayAhead : dayAhead.data.IsTable where
  listed := ⟨[⟨0, false, "STD"⟩, ⟨86400, false, "DAY"⟩], [(0, 1)], rfl⟩
  nonempty := by decide
  standardFirst := rfl
  ascending i hi := by change i + 1 < 1 at hi; omega
  apart i hi := by change i + 1 < 1 at hi; omega

/-- Where records hold an offset of a day, an offset that no moment has is not refused as such. -/
theorem not_selected_dayAhead :
    dayAhead.data.IsTable ∧
      Pattern.read (System.zoneNames summerWorld.system) "1970-06-01 00:00:00 +0000" "%Y-%m-%d %H:%M:%S %z" =
        .ok ⟨june1970.toMicro, some 0⟩ ∧
      june1970.toMicro.toCivil.Inside 172800 ∧
      ¬ Selected ((Zone.region dayAhead).resolve summerWorld june1970.toMicro.toCivil).result
        (Zone.region dayAhead).quoted 0
        ((Zone.region dayAhead).momentOfText summerWorld "1970-06-01 00:00:00 +0000" "%Y-%m-%d %H:%M:%S %z").result := by
  refine ⟨isTable_dayAhead, rfl, by decide, fun selected => ?_⟩
  have out : ((Zone.region dayAhead).momentOfText summerWorld "1970-06-01 00:00:00 +0000"
      "%Y-%m-%d %H:%M:%S %z").result = .error .offsetTooLarge := rfl
  rw [out] at selected
  obtain ⟨f, hf, refuses⟩ := selected.refuses fun m hm => by cases hm
  cases hf
  cases refuses

end CivilTime
