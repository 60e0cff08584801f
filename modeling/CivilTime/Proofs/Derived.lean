/-
  CivilTime.Proofs.Derived — what a zone defined outside the library is asked, and what becomes of its answers.

  Such a zone only answers questions: what is its offset on a local date, at a reading, on a date or at a
  moment of UTC? All other operations on it are derived from the answers, whatever these are. Each
  operation puts at most one question, and the right one (`Traced.AsksOnce`): arguments that name
  nothing are refused before the zone is asked, a refusal of the zone is handed on, and an answer is taken
  as it is.

  A date stands with the offset answered for it (`NamesDate`). A count of seconds is a moment of UTC,
  about which the zone is asked (`CountsInUtc`). A reading becomes the moment that shows it, so many
  seconds away as the offset says, unless that leaves the calendar (`PlacesReading`). A text with an
  offset of its own names a moment of UTC, and the zone has to answer that offset (`ChecksOffset`). Main
  statement: `derived_custom`.
-/

import CivilTime.Program
import CivilTime.Proofs.Earliest
import CivilTime.Proofs.Parsing

namespace CivilTime

open CivilDateTime (InCalendar)
open Pattern (Parsed)

/-! ## One question -/

/-- The step puts one question and shows nothing else. A refusal is handed on, and an answer has an outcome. -/
structure Traced.AsksOnce {α : Type} (t : Traced α) (q : Question) (answer : Except Fault Offset)
    (outcome : Offset → Except Fault α → Prop) : Prop where
  notes : t.notes = [.asked q]
  refused : ∀ f, answer = .error f → t.result = .error f
  answered : ∀ o, answer = .ok o → outcome o t.result

namespace Zone

variable {α β : Type} {q : Question} {answer : Except Fault Offset} {f : ZoneState → Traced α}

/-- What is done silently with the answer to a question settles the outcome. -/
theorem asksOnce_bind {outcome : Offset → Except Fault α → Prop} (silent : ∀ s, (f s).notes = [])
    (settled : ∀ o, outcome o (f (.custom o)).result) : (ask q answer >>= f).AsksOnce q answer outcome where
  notes := by
    rw [Traced.notes_bind silent]
    cases answer <;> rfl
  refused e he := by
    subst he
    rfl
  answered o ho := by
    subst ho
    exact settled o

end Zone

/-! ## What is derived -/

/-- Where fields name no date the zone is not asked, and where they do it is asked about the date. -/
structure NamesDate (w : World) (named : Except Failure CivilDate) (t : Traced ZonedDate) : Prop where
  invalid : ∀ f, named = .error f → t = .fail .invalidDate
  valid : ∀ d, named = .ok d → t.AsksOnce (.localDate d) (w.custom.localDate d) fun o out => out = .ok ⟨d, .custom o⟩

structure CountsInUtc (w : World) (secs nanos : Int) (t : Traced ZonedDateTime) : Prop where
  invalidTime : ¬ (0 ≤ nanos ∧ nanos < 2000000000) → t = .fail .invalidTime
  invalidDateTime : 0 ≤ nanos ∧ nanos < 2000000000 → ¬ InCalendar secs → t = .fail .invalidDateTime
  valid : 0 ≤ nanos ∧ nanos < 2000000000 → InCalendar secs →
    ∃ u : CivilDateTime, u.timestamp = secs ∧ u.time.nanosecond = nanos ∧
      t.AsksOnce (.utcDateTime u) (w.custom.utcDateTime u) fun o out => out = .ok ⟨u, .custom o⟩

structure PlacedBy (x : CivilDateTime) (o : Offset) (out : Except Fault ZonedDateTime) : Prop where
  inside : InCalendar (x.timestamp - o.seconds) → ∃ m, out = .ok m ∧ m.localForm = .ok x ∧
    m.utc.timestamp = x.timestamp - o.seconds ∧ m.state = .custom o
  outside : ¬ InCalendar (x.timestamp - o.seconds) → out = .error (.failure .invalidDateTime)

def PlacesReading (w : World) (x : CivilDateTime) (t : Traced ZonedDateTime) : Prop :=
  t.AsksOnce (.localDateTime x) (w.custom.localDateTime x) (PlacedBy x)

/-- A reading with an offset of its own is a moment of UTC, if it is one of the calendar. The zone is asked about
this moment, and has to answer the offset. -/
structure ChecksOffset (w : World) (x : CivilDateTime) (e : Offset) (t : Traced ZonedDateTime) : Prop where
  outside : ¬ InCalendar (x.timestamp - e.seconds) → t = .fail .invalidDateTime
  inside : InCalendar (x.timestamp - e.seconds) →
    ∃ u : CivilDateTime, u.timestamp = x.timestamp - e.seconds ∧ u.time.nanosecond = x.time.nanosecond ∧
      t.AsksOnce (.utcDateTime u) (w.custom.utcDateTime u) fun o out =>
        (o = e → out = .ok ⟨u, .custom e⟩) ∧ (o ≠ e → out = .error (.offsetMismatch e o Zone.custom.quoted))

/-- A time of day is added to a date that stands in the zone with an offset. The time is named first; then the zone
of the offset is looked for, and the zone is asked about the reading. -/
structure AddsTime (w : World) (d : CivilDate) (o : Offset) : Prop where
  invalid : ∀ a args f, Action.timeOf? a args = some (.error f) →
    Action.withTime w a args (.zonedDate ⟨d, .custom o⟩) = .fail .invalidTime
  valid : ∀ a args c, Action.timeOf? a args = some (.ok c) → ∃ t, PlacesReading w ⟨d, c⟩ t ∧
    Action.withTime w a args (.zonedDate ⟨d, .custom o⟩) = ⟨.asked (.ofOffset o.text) :: t.notes, t.result.map .moment⟩

/-- All that is derived from the answers of a zone defined outside the library. -/
structure DerivesAll (w : World) : Prop where
  ymd : ∀ y m d, NamesDate w (CivilDate.ofYmd y m d) (Zone.custom.dateOfYmd w y m d)
  ordinalDate : ∀ y k, NamesDate w (CivilDate.ofOrdinal y k) (Zone.custom.dateOfOrdinal w y k)
  weekDate : ∀ y week d, NamesDate w (CivilDate.ofWeek y week d) (Zone.custom.dateOfWeek w y week d)
  dateOfLocal : ∀ d, NamesDate w (.ok d) (Zone.custom.dateOfLocal w d)
  resolveDate : ∀ d, (Zone.custom.resolveDate w d).AsksOnce (.localDate d) (w.custom.localDate d) fun o out =>
    out = .ok (.single ⟨d, .custom o⟩)
  dateOfUtc : ∀ d, (Zone.custom.dateOfUtc w d).AsksOnce (.utcDate d) (w.custom.utcDate d) fun o out =>
    out = .ok ⟨d, .custom o⟩
  timestamp : ∀ secs nanos, CountsInUtc w secs nanos (Zone.custom.momentOfTimestamp w secs nanos)
  timestampMillis : ∀ n, CountsInUtc w (n / 1000) (n % 1000 * 1000000) (Zone.custom.momentOfMillis w n)
  timestampNanos : ∀ n, CountsInUtc w (n / 1000000000) (n % 1000000000) (Zone.custom.momentOfNanos w n)
  momentOfUtc : ∀ u, (Zone.custom.momentOfUtc w u).AsksOnce (.utcDateTime u) (w.custom.utcDateTime u) fun o out =>
    out = .ok ⟨u, .custom o⟩
  momentOfLocal : ∀ x, PlacesReading w x (Zone.custom.momentOfLocal w x)
  resolve : ∀ x, (Zone.custom.resolve w x).AsksOnce (.localDateTime x) (w.custom.localDateTime x) fun o out =>
    ∃ one, PlacedBy x o one ∧ out = one.map .single
  unreadText : ∀ text format p, Pattern.read (System.zoneNames w.system) text format = .error p →
    Zone.custom.momentOfText w text format = .fault (.pattern p)
  localText : ∀ text format parsed, Pattern.read (System.zoneNames w.system) text format = .ok parsed →
    parsed.offsetMicros = none → PlacesReading w parsed.reading.toCivil (Zone.custom.momentOfText w text format)
  utcText : ∀ text format parsed e, Pattern.read (System.zoneNames w.system) text format = .ok parsed →
    parsed.offsetMicros = some (e.seconds * 1000000) →
      ChecksOffset w parsed.reading.toCivil e (Zone.custom.momentOfText w text format)
  fractionText : ∀ text format parsed micros, Pattern.read (System.zoneNames w.system) text format = .ok parsed →
    parsed.offsetMicros = some micros → micros % 1000000 ≠ 0 →
      Zone.custom.momentOfText w text format = .fault (.fractionalOffset micros)
  wideText : ∀ text format parsed micros, Pattern.read (System.zoneNames w.system) text format = .ok parsed →
    parsed.offsetMicros = some micros → micros % 1000000 = 0 → Offset.ofSeconds? (micros / 1000000) = none →
      Zone.custom.momentOfText w text format = .fault (.offsetOutOfBounds (micros / 1000000))
  dateInZone : ∀ d : ZonedDate, (d.inZone w .custom).AsksOnce (.utcDate d.date) (w.custom.utcDate d.date) fun o out =>
    out = .ok ⟨d.date, .custom o⟩
  momentInZone : ∀ m : ZonedDateTime, (m.inZone w .custom).AsksOnce (.utcDateTime m.utc) (w.custom.utcDateTime m.utc)
    fun o out => out = .ok ⟨m.utc, .custom o⟩
  time : ∀ d o, AddsTime w d o

/-! ## Dates -/

namespace Zone

variable {w : World}

theorem dateOfLocal_custom (w : World) (d : CivilDate) : custom.dateOfLocal w d =
    ask (.localDate d) (w.custom.localDate d) >>= fun s => pure ⟨d, s⟩ := by
  simp only [dateOfLocal, stateOfLocalDate, dateCandidates, bind_assoc, pure_bind, Resolution.earliest]

theorem asksOnce_dateOfLocal (w : World) (d : CivilDate) :
    (custom.dateOfLocal w d).AsksOnce (.localDate d) (w.custom.localDate d) fun o out => out = .ok ⟨d, .custom o⟩ := by
  rw [dateOfLocal_custom]
  exact asksOnce_bind (fun _ => rfl) fun _ => rfl

/-- A date is named before the zone is asked. -/
theorem namesDate_bind {valid : Prop} [Decidable valid] {n : Int} :
    NamesDate w (CivilDate.named valid n) (do custom.dateOfLocal w (← .of (CivilDate.named valid n))) where
  invalid f hf := by
    rw [hf, CivilDate.named_eq_error hf]
    rfl
  valid d hd := by
    rw [hd]
    exact asksOnce_dateOfLocal w d

theorem asksOnce_resolveDate (w : World) (d : CivilDate) : (custom.resolveDate w d).AsksOnce (.localDate d)
    (w.custom.localDate d) fun o out => out = .ok (.single ⟨d, .custom o⟩) := by
  simp only [resolveDate, dateCandidates, bind_assoc, pure_bind]
  exact asksOnce_bind (fun _ => rfl) fun _ => rfl

theorem asksOnce_dateOfUtc (w : World) (d : CivilDate) : (custom.dateOfUtc w d).AsksOnce (.utcDate d)
    (w.custom.utcDate d) fun o out => out = .ok ⟨d, .custom o⟩ :=
  asksOnce_bind (fun _ => rfl) fun _ => rfl

/-! ## Moments of UTC -/

theorem asksOnce_momentOfUtc (w : World) (u : CivilDateTime) : (custom.momentOfUtc w u).AsksOnce (.utcDateTime u)
    (w.custom.utcDateTime u) fun o out => out = .ok ⟨u, .custom o⟩ :=
  asksOnce_bind (fun _ => rfl) fun _ => rfl

theorem countsInUtc_momentOfTimestamp (w : World) (secs nanos : Int) :
    CountsInUtc w secs nanos (custom.momentOfTimestamp w secs nanos) where
  invalidTime bad := by
    unfold momentOfTimestamp
    rw [CivilDateTime.ofTimestamp_of_bad bad]
    rfl
  invalidDateTime good outside := by
    unfold momentOfTimestamp
    rw [CivilDateTime.ofTimestamp_of_outside good outside]
    rfl
  valid good inside := by
    obtain ⟨u, hu⟩ := CivilDateTime.exists_ofTimestamp inside good.1 good.2
    obtain ⟨seconds, nano⟩ := CivilDateTime.timestamp_of_ofTimestamp hu
    refine ⟨u, seconds, nano, ?_⟩
    unfold momentOfTimestamp
    rw [hu]
    exact asksOnce_momentOfUtc w u

/-! ## Readings -/

theorem momentOfLocal_custom (w : World) (x : CivilDateTime) : custom.momentOfLocal w x =
    ask (.localDateTime x) (w.custom.localDateTime x) >>= momentIn x := by
  simp only [momentOfLocal, stateOfLocal, candidates, bind_assoc, pure_bind, Resolution.earliest]

theorem placedBy_momentIn (x : CivilDateTime) (o : Offset) : PlacedBy x o (momentIn x (.custom o)).result where
  inside h := by
    obtain ⟨m, hm⟩ := exists_momentIn (x := x) (s := .custom o) h
    obtain ⟨state, reads⟩ := momentIn_eq_ok.mp hm
    exact ⟨m, hm, ZonedDateTime.localForm_eq_ok.mpr reads, reads.timestamp_eq state, state⟩
  outside h := momentIn_of_outside h

theorem placesReading_momentOfLocal (w : World) (x : CivilDateTime) :
    PlacesReading w x (custom.momentOfLocal w x) := by
  unfold PlacesReading
  rw [momentOfLocal_custom]
  exact asksOnce_bind (notes_momentIn x) (placedBy_momentIn x)

theorem asksOnce_resolve (w : World) (x : CivilDateTime) : (custom.resolve w x).AsksOnce (.localDateTime x)
    (w.custom.localDateTime x) fun o out => ∃ one, PlacedBy x o one ∧ out = one.map .single := by
  simp only [resolve, candidates, bind_assoc, pure_bind, Resolution.mapM]
  refine asksOnce_bind (fun s => ?_) fun o => ?_
  · exact (Traced.notes_bind fun _ => rfl).trans (notes_momentIn x s)
  · exact ⟨_, placedBy_momentIn x o, Traced.result_bind_pure _ _⟩

/-! ## Texts -/

section Text

variable {text format : String} {parsed : Parsed}
  (read : Pattern.read (System.zoneNames w.system) text format = .ok parsed)

include read

theorem placesReading_momentOfText (implicit : parsed.offsetMicros = none) :
    PlacesReading w parsed.reading.toCivil (custom.momentOfText w text format) := by
  have same : custom.momentOfText w text format = custom.momentOfLocal w parsed.reading.toCivil := by
    unfold momentOfText
    rw [read, Traced.lift_ok, pure_bind, implicit]
  rw [same]
  exact placesReading_momentOfLocal w _

theorem checksOffset_momentOfText {e : Offset} (explicit : parsed.offsetMicros = some (e.seconds * 1000000)) :
    ChecksOffset w parsed.reading.toCivil e (custom.momentOfText w text format) := by
  rw [momentOfText_eq_utc read explicit rfl]
  refine ⟨fun outside => ?_, fun inside => ?_⟩
  · rw [CivilDateTime.toUtc_of_outside outside]
    rfl
  · obtain ⟨u, hu, seconds, nano⟩ := CivilDateTime.exists_toUtc inside
    refine ⟨u, seconds, nano, ?_⟩
    rw [hu]
    show (custom.momentOfUtc w u >>= _).AsksOnce _ _ _
    simp only [momentOfUtc, stateOfUtc, bind_assoc, pure_bind]
    refine asksOnce_bind (fun s => ?_) fun o => ⟨?_, ?_⟩
    · split <;> rfl
    · rintro rfl
      exact congrArg Traced.result (if_neg (not_not_intro rfl))
    · intro other
      exact congrArg Traced.result (if_pos other)

end Text

/-! ## Times of day -/

end Zone

theorem ClockTime.ofHmsNano_eq_error {h m s nano : Int} {f : Failure} (bad : ofHmsNano h m s nano = .error f) :
    f = .invalidTime := by
  unfold ofHmsNano at bad
  split at bad <;> cases bad
  rfl

/-- A time of day that arguments name can only fail to be one. -/
theorem Action.timeOf?_eq_error {a : Action} {args : List Value} {f : Failure} (h : a.timeOf? args = some (.error f)) :
    f = .invalidTime := by
  unfold timeOf? at h
  split at h
  · cases h
  · split at h <;> first
      | exact ClockTime.ofHmsNano_eq_error (Option.some.inj h)
      | cases h

namespace Zone

variable {w : World}

theorem addsTime (w : World) (d : CivilDate) (o : Offset) : AddsTime w d o where
  invalid a args f named := by
    unfold Action.withTime
    rw [named, Action.timeOf?_eq_error named]
    rfl
  valid a args c named := by
    refine ⟨custom.momentOfLocal w ⟨d, c⟩, placesReading_momentOfLocal w _, ?_⟩
    have asked : Action.withTime w a args (.zonedDate ⟨d, .custom o⟩) =
        Traced.note (.asked (.ofOffset o.text)) >>= fun _ => do return .moment (← custom.momentOfLocal w ⟨d, c⟩) := by
      have time : Traced.of (.ok c) = pure c := rfl
      unfold Action.withTime
      rw [named]
      simp only [time, ZonedDate.atTime, ofState, bind_assoc, pure_bind]
    rw [asked, Traced.bind_of_ok rfl]
    refine Traced.ext ?_ (Traced.result_bind_pure _ _)
    exact congrArg (_ :: ·) (Traced.notes_bind fun _ => rfl)

end Zone

/-- All operations on a zone defined outside the library put at most one question to it, and make of the answer what
they are for. -/
theorem derived_custom (w : World) : DerivesAll w where
  ymd _ _ _ := Zone.namesDate_bind
  ordinalDate _ _ := Zone.namesDate_bind
  weekDate _ _ _ := Zone.namesDate_bind
  dateOfLocal d := ⟨fun _ h => (by cases h), fun d' h => (by cases h; exact Zone.asksOnce_dateOfLocal w d)⟩
  resolveDate := Zone.asksOnce_resolveDate w
  dateOfUtc := Zone.asksOnce_dateOfUtc w
  timestamp := Zone.countsInUtc_momentOfTimestamp w
  timestampMillis _ := Zone.countsInUtc_momentOfTimestamp w _ _
  timestampNanos _ := Zone.countsInUtc_momentOfTimestamp w _ _
  momentOfUtc := Zone.asksOnce_momentOfUtc w
  momentOfLocal := Zone.placesReading_momentOfLocal w
  resolve := Zone.asksOnce_resolve w
  unreadText text format p read := by
    unfold Zone.momentOfText
    rw [read]
    rfl
  localText _ _ _ read implicit := Zone.placesReading_momentOfText read implicit
  utcText _ _ _ _ read explicit := Zone.checksOffset_momentOfText read explicit
  fractionText _ _ _ _ read explicit fraction := Zone.momentOfText_eq_fault read explicit fraction
  wideText _ _ _ _ read explicit whole wide := Zone.momentOfText_eq_outOfBounds read explicit whole wide
  dateInZone d := Zone.asksOnce_dateOfUtc w d.date
  momentInZone m := Zone.asksOnce_momentOfUtc w m.utc
  time := Zone.addsTime w

end CivilTime
