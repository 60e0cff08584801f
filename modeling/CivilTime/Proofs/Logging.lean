/-
  CivilTime.Proofs.Logging — what every operation writes to the log.

  An operation resolves one local reading or none, and which one is told by the operation and its arguments
  (`Action.resolved?`). A zone resolves the reading, or the midnight of the date, that it is handed or makes of
  numbers or of a text without an offset. A date in a zone resolves the reading that a time of day makes of it, in
  the zone that its state belongs to.

  Main statement: whatever becomes of an operation, it reports on the reading that it resolves and writes nothing
  else (`logsExactly`). There is one lemma for each function that carries operations out (`reports_onZone`,
  `reports_withTime`, ...), and it rests on those for the ways in which a zone is asked. Nothing is written on the way
  from UTC, nor by a maker, but for those that read the clock (`records_make`).
-/

import CivilTime.Program.Acting
import CivilTime.Proofs.Pattern.Explicit
import CivilTime.Proofs.Records

namespace CivilTime

open Traced (quiet_pure quiet_fault quiet_fail quiet_lift quiet_of quiet_bind follows_bind reports_of_none)

/-! ## Zones -/

namespace Zone

variable {w : World} {z : Zone}

theorem quiet_stateOfUtc (x : CivilDateTime) : (z.stateOfUtc w x).Quiet := by
  cases z with
  | utc => exact quiet_pure _
  | fixed o => exact quiet_pure _
  | system => exact quiet_bind (quiet_of _) fun _ => quiet_pure _
  | region r => exact quiet_bind (quiet_bind (quiet_of _) fun _ => quiet_lift _ _) fun _ => quiet_pure _
  | custom => exact quiet_ask _ _

theorem quiet_stateOfUtcDate (d : CivilDate) : (z.stateOfUtcDate w d).Quiet := by
  have ofMidnight := quiet_stateOfUtc (w := w) (z := z) (.startOf d)
  cases z with
  | custom => exact quiet_ask _ _
  | _ => exact ofMidnight

theorem quiet_dateOfUtc (d : CivilDate) : (z.dateOfUtc w d).Quiet :=
  quiet_bind (quiet_stateOfUtcDate d) fun _ => quiet_pure _

theorem quiet_momentOfUtc (x : CivilDateTime) : (z.momentOfUtc w x).Quiet :=
  quiet_bind (quiet_stateOfUtc x) fun _ => quiet_pure _

theorem quiet_momentOfTimestamp (secs nanos : Int) : (z.momentOfTimestamp w secs nanos).Quiet :=
  quiet_bind (quiet_of _) fun _ => quiet_momentOfUtc _

theorem quiet_ofState (s : ZoneState) : (ofState w s).Quiet := by
  cases s with
  | region o => exact quiet_bind (quiet_lift _ _) fun _ => quiet_pure _
  | custom o => exact quiet_bind rfl fun _ => quiet_pure _
  | _ => exact quiet_pure _

theorem quiet_momentIn (x : CivilDateTime) (s : ZoneState) : (momentIn x s).Quiet :=
  quiet_bind (quiet_of _) fun _ => quiet_pure _

theorem reportsOn_stateOfLocal (x : CivilDateTime) : (z.stateOfLocal w x).ReportsOn w z x :=
  (reportsOn_candidates w z x).of_follows (follows_bind fun _ => quiet_pure _)

theorem reportsOn_stateOfLocalDate (d : CivilDate) : (z.stateOfLocalDate w d).ReportsOn w z (.startOf d) :=
  (reportsOn_dateCandidates w z d).of_follows (follows_bind fun _ => quiet_pure _)

theorem reportsOn_dateOfLocal (d : CivilDate) : (z.dateOfLocal w d).ReportsOn w z (.startOf d) :=
  (reportsOn_stateOfLocalDate d).of_follows (follows_bind fun _ => quiet_pure _)

theorem reportsOn_resolveDate (d : CivilDate) : (z.resolveDate w d).ReportsOn w z (.startOf d) :=
  (reportsOn_dateCandidates w z d).of_follows (follows_bind fun _ => quiet_pure _)

theorem reportsOn_momentOfLocal (x : CivilDateTime) : (z.momentOfLocal w x).ReportsOn w z x :=
  (reportsOn_stateOfLocal x).of_follows (follows_bind fun _ => quiet_momentIn x _)

theorem reportsOn_resolve (x : CivilDateTime) : (z.resolve w x).ReportsOn w z x := by
  refine (reportsOn_candidates w z x).of_follows (follows_bind fun states => ?_)
  cases states with
  | single s => exact quiet_bind (quiet_momentIn x s) fun _ => quiet_pure _
  | ambiguous s t =>
    exact quiet_bind (quiet_momentIn x s) fun _ => quiet_bind (quiet_momentIn x t) fun _ => quiet_pure _

end Zone

/-! ## What is resolved -/

namespace Action

/-- The reading that a time of day makes of a date in a zone. The zone is the one that the date's state belongs to. -/
def timeResolved? (w : World) (a : Action) (args : List Value) : Value → Option (Zone × CivilDateTime)
  | .zonedDate d => do
    let t ← (← a.timeOf? args).toOption
    let z ← (Zone.ofState w d.state).result.toOption
    return (z, ⟨d.date, t⟩)
  | .single v => timeResolved? w a args v
  | _ => none

/-- What is resolved when a zone is asked about something that is no date or no reading. Instead of a date the
system's zone and a region take its midnight, as `andHms` makes it: if it is a date in a zone this one is resolved, in
the date's own zone. -/
def unfitResolved? (w : World) (z : Zone) (r : Resolver) (v : Value) : Option (Zone × CivilDateTime) :=
  match z, r with
  | .system, .localDate | .system, .utcDate | .region _, .localDate | .region _, .utcDate =>
    timeResolved? w andHms [.int 0, .int 0, .int 0] v
  | _, _ => none

def dateOfNumbers? (a : Action) (args : List Value) : Option CivilDate :=
  match a, numbers? args with
  | ymd, some [y, m, d] => (CivilDate.ofYmd y m d).toOption
  | ordinalDate, some [y, k] => (CivilDate.ofOrdinal y k).toOption
  | weekDate, some [y, week, d] => (CivilDate.ofWeek y week d).toOption
  | _, _ => none

def readingOfText? (w : World) (text format : String) : Option CivilDateTime :=
  if Pattern.AsksOffset format then none
  else (Pattern.read (System.zoneNames w.system) text format).toOption.map (·.reading.toCivil)

/-- What is resolved when a zone is asked for an offset. A date stands for its midnight. -/
def askedResolved? (w : World) (z : Zone) (r : Resolver) (v : Value) : Option (Zone × CivilDateTime) :=
  match r, v with
  | .localDate, .date d => some (z, .startOf d)
  | .localDateTime, .dateTime x => some (z, x)
  | r, v => unfitResolved? w z r v

def zoneResolved? (w : World) (z : Zone) (a : Action) (args : List Value) : Option (Zone × CivilDateTime) :=
  match a, args with
  | momentOfText, [.text s, .text format] => (readingOfText? w s format).map fun x => (z, x)
  | a, args =>
    match a.resolver?, args with
    | some r, [v] => askedResolved? w z r v
    | _, _ => (dateOfNumbers? a args).map fun d => (z, .startOf d)

def resolved? (w : World) (a : Action) (v : Value) (args : List Value) : Option (Zone × CivilDateTime) :=
  match v with
  | .zone z => zoneResolved? w z a args
  | .zonedDate _ | .single _ => timeResolved? w a args v
  | _ => none

end Action

/-! ## Actions -/

namespace Action

variable {w : World}

theorem length_of_mapM {α β : Type} {f : α → Option β} {as : List α} {bs : List β} (h : as.mapM f = some bs) :
    as.length = bs.length := by
  induction as generalizing bs with
  | nil => cases h; rfl
  | cons a as ih =>
    simp only [List.mapM_cons, Option.bind_eq_bind, Option.bind_eq_some_iff, Option.pure_def, Option.some.injEq] at h
    obtain ⟨b, -, bs, rest, rfl⟩ := h
    rw [List.length_cons, List.length_cons, ih rest]

/-- Only the right number of arguments names a time of day. -/
theorem timeArity?_of_timeOf? {a : Action} {args : List Value} {t : Except Failure ClockTime}
    (h : a.timeOf? args = some t) : a.timeArity? = some args.length := by
  unfold timeOf? at h
  split at h
  · rfl
  · split at h
    case h_5 => cases h
    all_goals
      rename_i numbers _
      rw [length_of_mapM numbers]
      rfl

theorem timeResolved?_of_none {a : Action} {args : List Value} (h : a.timeOf? args = none) :
    ∀ v, timeResolved? w a args v = none
  | .zonedDate d => by simp only [timeResolved?, h]; rfl
  | .single v => timeResolved?_of_none h v
  | .null | .flag _ | .int _ | .text _ | .pair _ _ | .list _ | .date _ | .clockTime _ | .dateTime _ | .plainDate _
  | .plainTime _ | .plainDateTime _ | .zone _ | .regionOffset _ | .moment _ | .ambiguous _ _ | .failureKind _
  | .failure _ => rfl

theorem reports_atTime (d : ZonedDate) (t : ClockTime) :
    (d.atTime w t).Reports w (do return (← (Zone.ofState w d.state).result.toOption, ⟨d.date, t⟩)) := by
  refine Traced.reports_bind (Zone.quiet_ofState _) (fun e h => ?_) fun z h => ?_
  · rw [h]; rfl
  · rw [h]; exact Zone.reportsOn_momentOfLocal _

theorem quiet_addUnfitTime (d : ZonedDate) (v : Value) : (addUnfitTime w d v).Quiet := by
  unfold addUnfitTime
  dsimp only
  refine quiet_bind (Zone.quiet_ofState _) fun z => ?_
  split
  case h_3 =>
    refine quiet_bind (quiet_of _) fun _ => quiet_bind (Zone.quiet_ask _ _) fun _ => ?_
    split <;> (try split) <;> exact quiet_fault _
  all_goals (try split) <;> (try split) <;> exact quiet_fault _

theorem reports_withTime (a : Action) (args : List Value) :
    ∀ v, (withTime w a args v).Reports w (timeResolved? w a args v)
  | .date d => by
    unfold withTime
    split
    · exact quiet_bind (quiet_of _) fun _ => quiet_pure _
    · exact quiet_fault _
  | .zonedDate d => by
    unfold withTime
    split
    · rename_i t h
      simp only [timeResolved?, h]
      cases t with
      | error e => exact quiet_fault _
      | ok t => exact (reports_atTime d t).bind fun _ => quiet_pure _
    · rename_i h
      rw [timeResolved?_of_none h]
      exact quiet_addUnfitTime d _
    · rename_i named _
      rw [timeResolved?_of_none (Option.eq_none_iff_forall_ne_some.mpr named)]
      exact quiet_fault _
  | .single v => by
    unfold withTime
    exact (reports_withTime a args v).bind fun _ => quiet_pure _
  | .ambiguous _ _ => by unfold withTime; exact quiet_fail _
  | .null | .flag _ | .int _ | .text _ | .pair _ _ | .list _ | .clockTime _ | .dateTime _ | .plainDate _
  | .plainTime _ | .plainDateTime _ | .zone _ | .regionOffset _ | .moment _ | .failureKind _ | .failure _ => by
    unfold withTime; exact quiet_fault _

theorem reports_addTime (a : Action) (args : List Value) (v : Value) :
    (a.addTime w args v).Reports w (timeResolved? w a args v) := by
  unfold addTime
  split
  · exact reports_withTime a args v
  · rename_i wrong
    have none : a.timeOf? args = none := by
      cases h : a.timeOf? args with
      | none => rfl
      | some t => exact absurd (timeArity?_of_timeOf? h) wrong
    rw [timeResolved?_of_none none]
    exact quiet_fault _

theorem quiet_onAny (a : Action) (v : Value) (args : List Value) : (a.onAny v args).Quiet := by
  unfold onAny
  split
  · split
    · exact quiet_bind (quiet_of _) fun _ => quiet_pure _
    · exact quiet_fault _
  · split
    · exact quiet_bind (quiet_of _) fun _ => quiet_pure _
    · exact quiet_fault _
  · split
    · exact quiet_pure _
    · exact quiet_fault _
  · split
    · split
      · exact quiet_pure _
      · exact quiet_fault _
    · exact quiet_fault _
  · exact quiet_pure _
  · exact quiet_pure _
  · exact quiet_of _
  · exact quiet_fault _

theorem quiet_onDate (d : CivilDate) (a : Action) (args : List Value) : (onDate w d a args).Quiet := by
  unfold onDate
  split
  case h_8 => exact reports_addTime _ _ (.date d)
  all_goals exact quiet_pure _

theorem quiet_onTime (t : ClockTime) (a : Action) (args : List Value) : (onTime t a args).Quiet := by
  unfold onTime
  split
  case h_7 => exact quiet_fault _
  all_goals exact quiet_pure _

theorem quiet_onDateTime (x : CivilDateTime) (a : Action) (args : List Value) : (onDateTime x a args).Quiet := by
  unfold onDateTime
  split <;> first
    | exact quiet_pure _
    | exact quiet_bind (quiet_of _) fun _ => quiet_pure _
    | exact quiet_fault _

theorem quiet_onRegionOffset (o : RegionOffset) (a : Action) (args : List Value) :
    (onRegionOffset o a args).Quiet := by
  unfold onRegionOffset
  split
  case h_4 => exact quiet_fault _
  all_goals exact quiet_pure _

theorem quiet_zoneOfOffset (v : Value) (z : Zone) : (zoneOfOffset w v z).Quiet := by
  cases z with
  | region r =>
    simp only [zoneOfOffset]
    split
    · exact quiet_bind (quiet_lift _ _) fun _ => quiet_pure _
    · exact quiet_bind (quiet_lift _ _) fun _ => quiet_pure _
    · exact quiet_fault _
  | custom => exact quiet_bind (quiet_of _) fun _ => quiet_bind rfl fun _ => quiet_pure _
  | _ => exact quiet_pure _

theorem quiet_onOnlyState (z : Zone) (s : ZoneState) (a : Action) (args : List Value) :
    (onOnlyState z s a args).Quiet := by
  unfold onOnlyState
  split
  case h_8 => exact quiet_fault _
  all_goals exact quiet_pure _

theorem quiet_onMoment (x : ZonedDateTime) (a : Action) (args : List Value) : (onMoment w x a args).Quiet := by
  unfold onMoment
  split
  case h_11 => exact quiet_bind (Zone.quiet_ofState _) fun _ => quiet_pure _
  case h_17 => exact quiet_bind (Zone.quiet_momentOfUtc _) fun _ => quiet_pure _
  -- the others answer with a part of the moment, or not at all
  all_goals first
    | exact quiet_pure _
    | exact quiet_bind (quiet_of _) fun _ => quiet_pure _
    | exact quiet_fault _

/-- A text is read before anything is resolved. What it says of an offset is in the format. -/
theorem reports_momentOfText (z : Zone) (text format : String) :
    (z.momentOfText w text format).Reports w ((readingOfText? w text format).map fun x => (z, x)) := by
  unfold Zone.momentOfText readingOfText?
  refine Traced.reports_bind (quiet_lift _ _) (fun e h => ?_) fun parsed h => ?_
  · cases read : Pattern.read (System.zoneNames w.system) text format with
    | ok parsed => rw [read] at h; cases h
    | error e => split <;> rfl
  · have read := Traced.lift_result_eq_ok.mp h
    have explicit := Pattern.isSome_offsetMicros_iff read
    rw [read]
    dsimp only
    cases given : parsed.offsetMicros with
    | none =>
      rw [given] at explicit
      rw [if_neg (fun asks => absurd (explicit.mpr asks) Bool.false_ne_true)]
      exact Zone.reportsOn_momentOfLocal _
    | some micros =>
      rw [given] at explicit
      rw [if_pos (explicit.mp rfl)]
      show Traced.Quiet _
      dsimp only
      split
      · exact quiet_fault _
      · split
        · exact quiet_fault _
        · refine quiet_bind (quiet_of _) fun x => quiet_bind (Zone.quiet_momentOfUtc x) fun m => ?_
          split
          · exact quiet_fault _
          · exact quiet_pure _

/-- Numbers have to make a date before anything is resolved. -/
theorem reports_dateOf (z : Zone) (e : Except Failure CivilDate) :
    (Traced.of e >>= z.dateOfLocal w).Reports w (e.toOption.map fun d => (z, .startOf d)) := by
  cases e with
  | error e => exact quiet_fail e
  | ok d => exact Zone.reportsOn_dateOfLocal d

theorem reports_onZoneNumbers (z : Zone) {a : Action} {args : List Value} {ns : List Int}
    (h : numbers? args = some ns) :
    (onZoneNumbers w z a ns).Reports w ((dateOfNumbers? a args).map fun d => (z, .startOf d)) := by
  unfold onZoneNumbers dateOfNumbers?
  rw [h]
  split
  case h_8 ymd ordinal week _ _ _ _ =>
    split
    · cases ‹some ns = _›
      exact (ymd _ _ _ rfl rfl).elim
    · cases ‹some ns = _›
      exact (ordinal _ _ rfl rfl).elim
    · cases ‹some ns = _›
      exact (week _ _ _ rfl rfl).elim
    · exact quiet_fault _
  case h_1 | h_2 | h_3 => exact (reports_dateOf z _).bind fun _ => quiet_pure _
  all_goals exact quiet_bind (Zone.quiet_momentOfTimestamp _ _) fun _ => quiet_pure _

/-- Where a date was expected, what does not suit is asked for its midnight. -/
theorem reports_stateOfUnfit (z : Zone) (r : Resolver) (v : Value) :
    (stateOfUnfit w z r v).Reports w (unfitResolved? w z r v) := by
  have midnight := reports_withTime (w := w) andHms [.int 0, .int 0, .int 0] v
  cases z with
  | utc | fixed o => cases r <;> exact quiet_pure _
  | custom => cases r <;> exact quiet_bind (quiet_of _) fun _ => Zone.quiet_ask _ _
  | system | region _ =>
    cases r with
    | localDate | utcDate => exact midnight.bind fun _ => quiet_fault _
    | localDateTime | utcDateTime => exact quiet_fault _

theorem reports_onUnfit (z : Zone) (r : Resolver) (a : Action) (v : Value) :
    (onUnfit w z r a v).Reports w (unfitResolved? w z r v) := by
  refine (reports_stateOfUnfit z r v).bind fun s => ?_
  split
  case h_5 | h_6 | h_7 => exact quiet_fault _
  all_goals exact quiet_pure _

theorem resolver?_eq_localDate {a : Action} (h : a.resolver? = some .localDate) :
    a = dateOfLocal ∨ a = resolveDate ∨ a = offsetOfLocalDate := by
  cases a <;> cases h <;> simp

theorem resolver?_eq_localDateTime {a : Action} (h : a.resolver? = some .localDateTime) :
    a = momentOfLocal ∨ a = resolve ∨ a = offsetOfLocal := by
  cases a <;> cases h <;> simp

theorem unfitResolved?_of_none {v : Value} (h : timeResolved? w andHms [.int 0, .int 0, .int 0] v = none) (z : Zone)
    (r : Resolver) : unfitResolved? w z r v = none := by
  unfold unfitResolved?
  split <;> first | exact h | rfl

theorem askedResolved?_of_unfit {r : Resolver} {v : Value} (noDate : ∀ d, r = .localDate → v ≠ .date d)
    (noReading : ∀ x, r = .localDateTime → v ≠ .dateTime x) (z : Zone) :
    askedResolved? w z r v = unfitResolved? w z r v := by
  unfold askedResolved?
  split
  · exact absurd rfl (noDate _ rfl)
  · exact absurd rfl (noReading _ rfl)
  · rfl

theorem zoneResolved?_of_resolver? {a : Action} {r : Resolver} (h : a.resolver? = some r) (z : Zone) (v : Value) :
    zoneResolved? w z a [v] = askedResolved? w z r v := by
  unfold zoneResolved?
  split
  · cases ‹[v] = _›
  · rw [h]

theorem dateOfNumbers?_of_none {args : List Value} (h : numbers? args = none) (a : Action) :
    dateOfNumbers? a args = none := by
  unfold dateOfNumbers?
  rw [h]
  cases a <;> rfl

/-- A zone resolves nothing that it does not read from a text, is not asked for and is not told by numbers. -/
theorem zoneResolved?_eq_none {a : Action} {args : List Value}
    (unread : ∀ s format, a = momentOfText → args ≠ [.text s, .text format])
    (unasked : ∀ r v, a.resolver? = some r → args ≠ [v]) (untold : dateOfNumbers? a args = none) (z : Zone) :
    zoneResolved? w z a args = none := by
  unfold zoneResolved?
  split
  · exact absurd rfl (unread _ _ rfl)
  · split
    · exact absurd rfl (unasked _ _ ‹_›)
    · rw [untold]
      rfl

/-- A value made of what resolves a reading. -/
theorem reports_made {α : Type} {t : Traced α} {z : Zone} {x : CivilDateTime} (h : t.ReportsOn w z x)
    {f : α → Value} : (do return f (← t)).Reports w (some (z, x)) :=
  Traced.Reports.bind (r := some (z, x)) h fun _ => quiet_pure _

/-- Nothing is resolved on the way from UTC, if the date or the reading there is one without a zone. -/
theorem reports_madeOfUtc {α : Type} {t : Traced α} {z : Zone} {a : Action} {r : Resolver} {v : Value}
    (asks : a.resolver? = some r) (utc : askedResolved? w z r v = unfitResolved? w z r v)
    (plain : timeResolved? w andHms [.int 0, .int 0, .int 0] v = none) (quiet : t.Quiet) {f : α → Value} :
    (do return f (← t)).Reports w (zoneResolved? w z a [v]) := by
  rw [zoneResolved?_of_resolver? asks, utc, unfitResolved?_of_none plain]
  exact quiet_bind quiet fun _ => quiet_pure _

theorem reports_onZone (z : Zone) (a : Action) (args : List Value) :
    (onZone w z a args).Reports w (zoneResolved? w z a args) := by
  unfold onZone
  split
  case h_1 => exact (reports_momentOfText z _ _).bind fun _ => quiet_pure _
  case h_2 unread =>
    refine reports_of_none (zoneResolved?_eq_none ?_ (fun r v h => (by cases h)) rfl z) (quiet_fault _)
    rintro s format - ⟨⟩
    exact unread _ rfl
  case h_3 unread =>
    refine reports_of_none (zoneResolved?_eq_none ?_ (fun r v h => (by cases h)) rfl z) (quiet_fault _)
    rintro s format - ⟨⟩
    exact unread _ rfl
  case h_4 => exact reports_made (Zone.reportsOn_dateOfLocal _)
  case h_5 => exact reports_made (Zone.reportsOn_momentOfLocal _)
  case h_6 => exact reports_madeOfUtc (r := .utcDate) rfl rfl rfl (Zone.quiet_dateOfUtc _)
  case h_7 => exact reports_madeOfUtc (r := .utcDateTime) rfl rfl rfl (Zone.quiet_momentOfUtc _)
  case h_8 => exact reports_made (Zone.reportsOn_resolveDate _)
  case h_9 => exact reports_made (Zone.reportsOn_resolve _)
  case h_10 => exact reports_made (Zone.reportsOn_stateOfLocalDate _)
  case h_11 => exact reports_made (Zone.reportsOn_stateOfLocal _)
  case h_12 => exact reports_madeOfUtc (r := .utcDate) rfl rfl rfl (Zone.quiet_stateOfUtcDate _)
  case h_13 => exact reports_madeOfUtc (r := .utcDateTime) rfl rfl rfl (Zone.quiet_stateOfUtc _)
  case h_14 => exact quiet_zoneOfOffset _ _
  case h_15 =>
    split
    · exact quiet_pure _
    · exact quiet_fault _
  case h_22 _ _ ymd ordinal week _ _ _ unread _ _ noDate noReading _ _ noDates noReadings noDateOffset
      noReadingOffset _ _ _ _ =>
    -- what is left are questions about something unfit, and actions of zones that have only one state
    have noDate (d : CivilDate) (h : a.resolver? = some .localDate) : args ≠ [.date d] := by
      rcases resolver?_eq_localDate h with rfl | rfl | rfl
      · exact noDate d rfl
      · exact noDates d rfl
      · exact noDateOffset d rfl
    have noReading (x : CivilDateTime) (h : a.resolver? = some .localDateTime) : args ≠ [.dateTime x] := by
      rcases resolver?_eq_localDateTime h with rfl | rfl | rfl
      · exact noReading x rfl
      · exact noReadings x rfl
      · exact noReadingOffset x rfl
    have untold : dateOfNumbers? a args = none := by
      unfold dateOfNumbers?
      split
      · exact (ymd rfl).elim
      · exact (ordinal rfl).elim
      · exact (week rfl).elim
      · rfl
    split
    · have asks := ‹a.resolver? = some _›
      rw [zoneResolved?_of_resolver? asks, askedResolved?_of_unfit]
      · exact reports_onUnfit ..
      · rintro d rfl rfl
        exact noDate d asks rfl
      · rintro x rfl rfl
        exact noReading x asks rfl
    · refine reports_of_none (zoneResolved?_eq_none unread (by assumption) untold z) ?_
      split
      · exact quiet_onOnlyState ..
      · exact quiet_fault _
  all_goals
    split
    · exact reports_onZoneNumbers z ‹_›
    · refine reports_of_none (zoneResolved?_eq_none ?_ (fun r v h => (by cases h)) ?_ z) (quiet_fault _)
      · rintro s format ⟨⟩
      · exact dateOfNumbers?_of_none ‹_› _

theorem reports_onZonedDate (d : ZonedDate) (a : Action) (args : List Value) :
    (onZonedDate w d a args).Reports w (timeResolved? w a args (.zonedDate d)) := by
  unfold onZonedDate
  split
  case h_7 => exact quiet_bind (Zone.quiet_ofState _) fun _ => quiet_pure _
  case h_8 => exact quiet_bind (Zone.quiet_dateOfUtc _) fun _ => quiet_pure _
  case h_9 => exact quiet_fault _
  case h_10 => exact reports_addTime _ _ _
  all_goals exact quiet_pure _

theorem reports_onSingle (v : Value) (a : Action) (args : List Value) :
    (onSingle w v a args).Reports w (timeResolved? w a args (.single v)) := by
  unfold onSingle
  split
  case h_6 => exact reports_addTime _ _ _
  all_goals
    rw [timeResolved?_of_none rfl]
    exact quiet_pure _

theorem quiet_onAmbiguous (v u : Value) (a : Action) (args : List Value) : (onAmbiguous w v u a args).Quiet := by
  unfold onAmbiguous
  split
  case h_6 => exact quiet_bind (quiet_of _) fun _ => quiet_bind (quiet_of _) fun _ => quiet_fault _
  case h_7 => exact reports_addTime _ _ (.ambiguous v u)
  all_goals exact quiet_pure _

/-- What every value can do resolves nothing. -/
theorem resolved?_of_isGeneral {a : Action} (h : a.IsGeneral) (v : Value) (args : List Value) :
    a.resolved? w v args = none := by
  cases a <;> cases h
  all_goals
    cases v with
    | single v => exact timeResolved?_of_none rfl v
    | _ => rfl

theorem reports_once (a : Action) (v : Value) (args : List Value) :
    (a.once w v args).Reports w (a.resolved? w v args) := by
  unfold once
  split
  · exact reports_of_none (resolved?_of_isGeneral ‹_› v args) (quiet_onAny a v args)
  · cases v with
    | date d => exact quiet_onDate d a args
    | clockTime t => exact quiet_onTime t a args
    | dateTime x => exact quiet_onDateTime x a args
    | zone z => exact reports_onZone z a args
    | regionOffset o => exact quiet_onRegionOffset o a args
    | zonedDate d => exact reports_onZonedDate d a args
    | moment x => exact quiet_onMoment x a args
    | single v => exact reports_onSingle v a args
    | ambiguous v u => exact quiet_onAmbiguous v u a args
    | failure f =>
      dsimp only
      split
      · exact quiet_pure _
      · exact quiet_fault _
    | failureKind f =>
      dsimp only
      split
      · exact quiet_pure _
      · exact quiet_pure _
      · exact quiet_fault _
    | _ => exact quiet_fault _

/-- Whatever an action is carried out on, it reports on the reading that it resolves and writes nothing else. -/
theorem reports_perform {a : Action} (h : ∀ b, a ≠ .onEach b) (v : Value) (args : List Value) :
    (a.perform w v args).Reports w (a.resolved? w v args) := by
  unfold perform
  split
  · exact absurd rfl (h _)
  · exact reports_once a v args

/-- What an action writes that is carried out on each value of a resolution, the later value only if the earlier one
has succeeded. -/
def eachRecords (w : World) (a : Action) (args : List Value) : Value → List Note
  | .single v => (a.perform w v args).records
  | .ambiguous v u =>
    (a.perform w v args).records ++ if (a.perform w v args).result.isOk then (a.perform w u args).records else []
  | _ => []

theorem records_onEach (a : Action) (v : Value) (args : List Value) :
    ((onEach a).perform w v args).records = eachRecords w a args v := by
  cases v with
  | single v =>
    simp only [perform, eachRecords]
    exact Traced.records_bind fun _ => quiet_pure _
  | ambiguous v u =>
    simp only [perform, eachRecords]
    cases h : (a.perform w v args).result with
    | error e =>
      rw [Traced.records_bind_of_error h]
      exact (List.append_nil _).symm
    | ok b =>
      rw [Traced.records_bind_of_ok h, Traced.records_bind fun _ => quiet_pure _]
      rfl
  | _ => rfl

end Action

/-! ## Makers -/

namespace Maker

variable {w : World}

def clockReading? (m : Maker) (args : List Value) : Option Int :=
  match m, numbers? args with
  | utcNow, some [n] | utcToday, some [n] | systemNow, some [n] | systemToday, some [n] => some n
  | _, _ => none

theorem records_now (n : Int) : (Zone.now w n).records = [.clockRead n] := by
  unfold Zone.now
  refine Traced.records_bind fun _ => ?_
  split
  · exact quiet_fail _
  · exact Zone.quiet_momentOfTimestamp _ _

theorem records_today {t : Traced ZonedDateTime} :
    (do return Value.zonedDate (← .of (← t).date)).records = t.records :=
  Traced.records_bind fun _ => quiet_bind (quiet_of _) fun _ => quiet_pure _

theorem quiet_offset (s : Int) : (offset s).Quiet := by
  unfold offset
  split
  · exact quiet_pure _
  · exact quiet_fault _

theorem records_ofNumbers (m : Maker) {args : List Value} {ns : List Int} (h : numbers? args = some ns) :
    (m.ofNumbers w ns).records = (m.clockReading? args).toList.map .clockRead := by
  unfold clockReading?
  rw [h]
  unfold ofNumbers
  split
  case h_18 n => exact (Traced.records_bind fun _ => quiet_pure _).trans (records_now n)
  case h_19 n => exact records_today.trans (records_now n)
  case h_20 n =>
    refine (Traced.records_bind fun x => ?_).trans (records_now n)
    exact quiet_bind (Zone.quiet_momentOfUtc x.utc) fun _ => quiet_pure _
  case h_21 n =>
    refine (Traced.records_bind fun x => ?_).trans (records_now n)
    exact records_today.trans (Zone.quiet_momentOfUtc x.utc)
  case h_22 =>
    split
    case h_5 => exact quiet_fault _
    all_goals simp_all
  case h_13 | h_14 =>
    split
    · exact quiet_bind (quiet_of _) fun _ => quiet_pure _
    · exact quiet_fault _
  all_goals first
    | exact quiet_offset _
    | exact quiet_pure _
    | exact quiet_bind (quiet_lift _ _) fun _ => quiet_pure _

theorem clockReading?_of_none {m : Maker} {args : List Value} (h : numbers? args = none) :
    m.clockReading? args = none := by
  unfold clockReading?
  rw [h]
  cases m <;> rfl

theorem records_ofCounts (m : Maker) (args : List Value) :
    (m.ofCounts w args).records = (m.clockReading? args).toList.map .clockRead := by
  unfold ofCounts
  split
  · exact records_ofNumbers m ‹_›
  · rw [clockReading?_of_none ‹_›]
    exact quiet_fault _

/-- Only reading the clock is written to the log. -/
theorem records_make (m : Maker) (args : List Value) :
    (m.make w args).records = (m.clockReading? args).toList.map .clockRead := by
  unfold make
  split
  case h_15 => exact records_ofCounts m args
  case h_3 => exact quiet_bind (quiet_lift _ _) fun _ => quiet_pure _
  case h_8 => exact quiet_bind (records_ofCounts _ _) fun _ => quiet_fault _
  case h_12 => exact quiet_fault _
  case h_14 => exact quiet_bind (quiet_lift _ _) fun _ => quiet_pure _
  case h_7 | h_11 | h_13 =>
    split
    · exact quiet_pure _
    · exact quiet_fault _
  all_goals exact quiet_pure _

end Maker

/-! ## All operations -/

/-- What the operations of the library write to the log. -/
structure LogsExactly (w : World) : Prop where
  /-- Whoever asks a zone about a date reports on its midnight. -/
  dates (z : Zone) (d : CivilDate) : (z.dateOfLocal w d).ReportsOn w z (.startOf d) ∧
    (z.resolveDate w d).ReportsOn w z (.startOf d) ∧ (z.stateOfLocalDate w d).ReportsOn w z (.startOf d)
  /-- Whoever asks it about a reading reports on that. -/
  readings (z : Zone) (x : CivilDateTime) :
    (z.momentOfLocal w x).ReportsOn w z x ∧ (z.resolve w x).ReportsOn w z x ∧ (z.stateOfLocal w x).ReportsOn w z x
  /-- An action reports on the reading that it resolves, and writes nothing if it resolves none. -/
  acts (a : Action) (v : Value) (args : List Value) (notEach : ∀ b, a ≠ .onEach b) :
    (a.perform w v args).Reports w (a.resolved? w v args)
  /-- On each value of a resolution an action writes what it writes on that value. -/
  maps (a : Action) (v : Value) (args : List Value) :
    ((Action.onEach a).perform w v args).records = a.eachRecords w args v
  /-- A maker writes what it has read off the clock, and nothing else. -/
  makes (m : Maker) (args : List Value) : (m.make w args).records = (m.clockReading? args).toList.map .clockRead
  /-- Only the system's zone and regions have readings to report on. -/
  elsewhere (z : Zone) (x : CivilDateTime) :
    z.SkipsReading w x ∨ z.RepeatsReading w x → z = .system ∨ ∃ r, z = .region r
  /-- A text in a format that asks for an offset is taken to UTC by it, and nothing is written. -/
  explicit (z : Zone) (text format : String) : Pattern.AsksOffset format → (z.momentOfText w text format).Quiet
  /-- Nor is anything on the way from UTC. -/
  fromUtc (z : Zone) (d : CivilDate) (x : CivilDateTime) : (z.dateOfUtc w d).Quiet ∧ (z.momentOfUtc w x).Quiet ∧
    (z.stateOfUtcDate w d).Quiet ∧ (z.stateOfUtc w x).Quiet

/-- The log tells of irregular readings when they are resolved, of the clock when it is read, and of nothing else. -/
theorem logsExactly (w : World) : LogsExactly w where
  dates _ d := ⟨Zone.reportsOn_dateOfLocal d, Zone.reportsOn_resolveDate d, Zone.reportsOn_stateOfLocalDate d⟩
  readings _ x := ⟨Zone.reportsOn_momentOfLocal x, Zone.reportsOn_resolve x, Zone.reportsOn_stateOfLocal x⟩
  acts _ v args notEach := Action.reports_perform notEach v args
  maps := Action.records_onEach
  makes := Maker.records_make
  elsewhere _ _ := Zone.system_or_region_of_irregular
  explicit z text format asks := by
    have report : (z.momentOfText w text format).Reports w _ := Action.reports_momentOfText z text format
    rwa [Action.readingOfText?, if_pos asks] at report
  fromUtc _ d x :=
    ⟨Zone.quiet_dateOfUtc d, Zone.quiet_momentOfUtc x, Zone.quiet_stateOfUtcDate d, Zone.quiet_stateOfUtc x⟩

end CivilTime
