/-
  CivilTime.Proofs.Portable — what does not depend on the system's zone.

  A value is portable if the system's zone does not occur in it: neither as a zone nor in the state of a
  date or a moment. That is a closed law (`closed_portable`), so operations on portable values make portable
  values. They also make the same values, the same faults and the same notes whatever the rule of the
  system's zone is (`perform_under`), but for one way in which every zone looks at it: a text may name
  a zone, if its format asks for that, and the names that it may give are those of the system's clock.
-/

import CivilTime.Proofs.Obeying

namespace CivilTime

open Traced (ensures_pure ensures_bind ensures_then)

def World.under (w : World) (r : ZoneRule) : World := { w with system := r }

/-! ## Names of zones in texts -/

namespace Pattern

/-- The format can be read, and asks for the name of a zone. -/
def AsksZoneName (format : String) : Prop :=
  ∃ tokens, Token.ofFormat format = .ok tokens ∧ .field .zoneName ∈ tokens

variable {zones zones' : ZoneNames}

theorem Directive.shapes_congr {d : Directive} (h : d = .zoneName → zones = zones') :
    d.shapes zones = d.shapes zones' := by
  by_cases name : d = .zoneName
  · rw [h name]
  · cases d with
    | zoneName => exact absurd rfl name
    | _ => rfl

theorem Token.splits_congr {t : Token} (h : t = .field .zoneName → zones = zones') (cs : List Char) :
    t.splits zones cs = t.splits zones' cs := by
  cases t with
  | field d => simp only [splits, Directive.shapes_congr fun name => h (congrArg field name)]
  | _ => rfl

/-- The names of zones matter to a match only if a token asks for one. -/
theorem Token.firstMatch_congr {tokens : List Token} (h : .field .zoneName ∈ tokens → zones = zones')
    (cs : List Char) : firstMatch zones tokens cs = firstMatch zones' tokens cs := by
  induction tokens generalizing cs with
  | nil => rfl
  | cons t ts ih =>
    have first : t.splits zones cs = t.splits zones' cs := splits_congr (fun name => h (by simp [name])) cs
    have rest := ih fun mem => h (List.mem_cons_of_mem t mem)
    simp only [firstMatch, first, rest]

theorem read_congr {format : String} (h : AsksZoneName format → zones = zones') (text : String) :
    read zones text format = read zones' text format := by
  unfold read
  cases found : Token.ofFormat format with
  | error p => rfl
  | ok tokens =>
    have same := Token.firstMatch_congr (fun mem => h ⟨tokens, found, mem⟩) text.toList
    simp only [bind, Except.bind, same]

end Pattern

/-! ## The law of portable values -/

def Zone.Portable : Zone → Prop
  | system => False
  | _ => True

def ZoneState.Portable : ZoneState → Prop
  | system _ => False
  | _ => True

def portable : Law where
  zone := Zone.Portable
  state := ZoneState.Portable
  moment m := m.state.Portable

namespace Zone

variable {w : World} {z : Zone}

theorem portable_ask (q : Question) (answer : Except Fault Offset) : (ask q answer).Ensures ZoneState.Portable :=
  ensures_then fun _ => ensures_then fun _ => ensures_pure trivial

theorem portable_stateOfUtc (h : z.Portable) (x : CivilDateTime) : (z.stateOfUtc w x).Ensures ZoneState.Portable := by
  cases z with
  | utc => exact ensures_pure trivial
  | fixed o => exact ensures_pure trivial
  | system => exact h.elim
  | region r => exact ensures_then fun _ => ensures_pure trivial
  | custom => exact portable_ask _ _

theorem portable_stateOfUtcDate (h : z.Portable) (d : CivilDate) :
    (z.stateOfUtcDate w d).Ensures ZoneState.Portable := by
  have ofMoment := portable_stateOfUtc (w := w) h (.startOf d)
  cases z with
  | custom => exact portable_ask _ _
  | _ => exact ofMoment

theorem portable_candidates (h : z.Portable) (x : CivilDateTime) :
    (z.candidates w x).Ensures fun res => ∀ s ∈ res.toList, s.Portable := by
  have single {s : ZoneState} (hs : s.Portable) : ∀ t ∈ (Resolution.single s).toList, t.Portable := by
    intro t ht
    rw [List.mem_singleton.mp ht]
    exact hs
  cases z with
  | utc => exact ensures_pure (single trivial)
  | fixed o => exact ensures_pure (single trivial)
  | system => exact h.elim
  | region r =>
    refine ensures_then fun res => ensures_pure fun s hs => ?_
    obtain ⟨o, -, rfl⟩ := Resolution.mem_toList_map.mp hs
    trivial
  | custom => exact ensures_bind (portable_ask _ _) fun _ hs => ensures_pure (single hs)

theorem portable_dateCandidates (h : z.Portable) (d : CivilDate) :
    (z.dateCandidates w d).Ensures fun res => ∀ s ∈ res.toList, s.Portable := by
  have ofReading := portable_candidates (w := w) h (.startOf d)
  cases z with
  | custom =>
    refine ensures_bind (portable_ask _ _) fun s hs => ensures_pure fun t ht => ?_
    rw [List.mem_singleton.mp ht]
    exact hs
  | _ => exact ofReading

end Zone

theorem closed_portable (w : World) : portable.Closed w where
  utc := trivial
  fixed _ := trivial
  region _ _ _ := trivial
  ofState s h := by
    cases s with
    | system o => exact h.elim
    | region o => exact ensures_then fun _ => ensures_pure trivial
    | custom o => exact ensures_then fun _ => ensures_pure trivial
    | _ => exact ensures_pure trivial
  state _ h := h
  stateOfUtcDate _ d h := Zone.portable_stateOfUtcDate h d
  dateCandidates _ d h := Zone.portable_dateCandidates h d
  ofUtc _ x s h found := Zone.portable_stateOfUtc h x s found
  ofLocal _ x res s h found hs := by
    intro m hm
    rw [show portable.moment m = m.state.Portable from rfl, (Zone.momentIn_eq_ok.mp hm).1]
    exact Zone.portable_candidates h x res found s hs

/-! ## Under another rule -/

section Under

variable {w : World} {r : ZoneRule}

namespace Zone

variable {z : Zone} (h : z.Portable)

include h

theorem candidates_under (x : CivilDateTime) : z.candidates (w.under r) x = z.candidates w x := by
  cases z with
  | system => exact h.elim
  | _ => rfl

theorem dateCandidates_under (d : CivilDate) : z.dateCandidates (w.under r) d = z.dateCandidates w d := by
  cases z with
  | system => exact h.elim
  | _ => rfl

theorem stateOfUtc_under (x : CivilDateTime) : z.stateOfUtc (w.under r) x = z.stateOfUtc w x := by
  cases z with
  | system => exact h.elim
  | _ => rfl

theorem stateOfUtcDate_under (d : CivilDate) : z.stateOfUtcDate (w.under r) d = z.stateOfUtcDate w d := by
  cases z with
  | system => exact h.elim
  | _ => rfl

theorem stateOfLocal_under (x : CivilDateTime) : z.stateOfLocal (w.under r) x = z.stateOfLocal w x := by
  simp only [stateOfLocal, candidates_under h]

theorem stateOfLocalDate_under (d : CivilDate) : z.stateOfLocalDate (w.under r) d = z.stateOfLocalDate w d := by
  simp only [stateOfLocalDate, dateCandidates_under h]

theorem dateOfLocal_under (d : CivilDate) : z.dateOfLocal (w.under r) d = z.dateOfLocal w d := by
  simp only [dateOfLocal, stateOfLocalDate_under h]

theorem dateOfYmd_under (y m d : Int) : z.dateOfYmd (w.under r) y m d = z.dateOfYmd w y m d := by
  simp only [dateOfYmd, dateOfLocal_under h]

theorem dateOfOrdinal_under (y k : Int) : z.dateOfOrdinal (w.under r) y k = z.dateOfOrdinal w y k := by
  simp only [dateOfOrdinal, dateOfLocal_under h]

theorem dateOfWeek_under (y week d : Int) : z.dateOfWeek (w.under r) y week d = z.dateOfWeek w y week d := by
  simp only [dateOfWeek, dateOfLocal_under h]

theorem dateOfUtc_under (d : CivilDate) : z.dateOfUtc (w.under r) d = z.dateOfUtc w d := by
  simp only [dateOfUtc, stateOfUtcDate_under h]

theorem resolveDate_under (d : CivilDate) : z.resolveDate (w.under r) d = z.resolveDate w d := by
  simp only [resolveDate, dateCandidates_under h]

theorem momentOfLocal_under (x : CivilDateTime) : z.momentOfLocal (w.under r) x = z.momentOfLocal w x := by
  simp only [momentOfLocal, stateOfLocal_under h]

theorem momentOfUtc_under (x : CivilDateTime) : z.momentOfUtc (w.under r) x = z.momentOfUtc w x := by
  simp only [momentOfUtc, stateOfUtc_under h]

theorem resolve_under (x : CivilDateTime) : z.resolve (w.under r) x = z.resolve w x := by
  simp only [resolve, candidates_under h]

theorem momentOfTimestamp_under (secs nanos : Int) :
    z.momentOfTimestamp (w.under r) secs nanos = z.momentOfTimestamp w secs nanos := by
  simp only [momentOfTimestamp, momentOfUtc_under h]

theorem momentOfText_under {format : String}
    (names : Pattern.AsksZoneName format → System.zoneNames w.system = System.zoneNames r) (text : String) :
    z.momentOfText (w.under r) text format = z.momentOfText w text format := by
  have read : Pattern.read (System.zoneNames (w.under r).system) text format =
      Pattern.read (System.zoneNames w.system) text format :=
    (Pattern.read_congr names text).symm
  simp only [momentOfText, read, momentOfLocal_under h, momentOfUtc_under h]

end Zone

theorem Zone.now_under (nanos : Int) : Zone.now (w.under r) nanos = Zone.now w nanos := by
  simp only [now, momentOfNanos, momentOfTimestamp_under (z := utc) trivial]

theorem ZonedDate.atTime_under {d : ZonedDate} (h : d.state.Portable) (t : ClockTime) :
    d.atTime (w.under r) t = d.atTime w t :=
  ((closed_portable w).ofState d.state h).bind_congr fun _ hz => Zone.momentOfLocal_under hz _

/-! ### Actions -/

namespace Action

def AsksZoneName (args : List Value) : Action → Prop
  | momentOfText =>
    match args with
    | [.text _, .text format] => Pattern.AsksZoneName format
    | _ => False
  | onEach a => a.AsksZoneName args
  | _ => False

/-- Times of day are added in the date's own zone, so a portable date looks at no other. -/
theorem withTime_under (a : Action) (args : List Value) :
    ∀ {v : Value}, v.Obeys portable → withTime (w.under r) a args v = withTime w a args v
  | .zonedDate d, h => by
    have atTime (t : ClockTime) : d.atTime (w.under r) t = d.atTime w t := ZonedDate.atTime_under h t
    simp only [withTime, atTime]
    rfl
  | .single v, h => by
    simp only [withTime, withTime_under a args (v := v) h]
  | .null, _ | .flag _, _ | .int _, _ | .text _, _ | .pair _ _, _ | .list _, _ | .date _, _ | .clockTime _, _
  | .dateTime _, _ | .plainDate _, _ | .plainTime _, _ | .plainDateTime _, _ | .zone _, _ | .regionOffset _, _
  | .moment _, _ | .ambiguous _ _, _ | .failureKind _, _ | .failure _, _ => rfl

theorem addTime_under {v : Value} (h : v.Obeys portable) (a : Action) (args : List Value) :
    a.addTime (w.under r) args v = a.addTime w args v := by
  simp only [addTime, withTime_under a args h]

theorem onDate_under (d : CivilDate) (a : Action) (args : List Value) :
    onDate (w.under r) d a args = onDate w d a args := by
  simp only [onDate, addTime_under (v := .date d) trivial]

section Zone

variable {z : Zone} (h : z.Portable)

include h

theorem stateOfUnfit_under {v : Value} (hv : v.Obeys portable) (q : Resolver) :
    stateOfUnfit (w.under r) z q v = stateOfUnfit w z q v := by
  cases z with
  | system => exact h.elim
  | region _ => simp only [stateOfUnfit, withTime_under _ _ hv]
  | _ => rfl

theorem onUnfit_under {v : Value} (hv : v.Obeys portable) (q : Resolver) (a : Action) :
    onUnfit (w.under r) z q a v = onUnfit w z q a v := by
  simp only [onUnfit, stateOfUnfit_under h hv]

theorem onZoneNumbers_under (a : Action) (args : List Int) :
    onZoneNumbers (w.under r) z a args = onZoneNumbers w z a args := by
  simp only [onZoneNumbers, Zone.dateOfYmd_under h, Zone.dateOfOrdinal_under h, Zone.dateOfWeek_under h,
    Zone.momentOfTimestamp_under h, Zone.momentOfMillis, Zone.momentOfNanos]

theorem zoneOfOffset_under (v : Value) : zoneOfOffset (w.under r) v z = zoneOfOffset w v z := by
  cases z <;> rfl

theorem onZone_under {a : Action} {args : List Value} (hargs : ∀ v ∈ args, v.Obeys portable)
    (names : a.AsksZoneName args → System.zoneNames w.system = System.zoneNames r) :
    onZone (w.under r) z a args = onZone w z a args := by
  have unfit (q : Resolver) (v : Value) (hv : v ∈ args) := onUnfit_under h (hargs v hv) q a (w := w) (r := r)
  unfold onZone
  simp only [Zone.dateOfLocal_under h, Zone.momentOfLocal_under h, Zone.dateOfUtc_under h, Zone.momentOfUtc_under h,
    Zone.resolveDate_under h, Zone.resolve_under h, Zone.stateOfLocalDate_under h, Zone.stateOfLocal_under h,
    Zone.stateOfUtcDate_under h, Zone.stateOfUtc_under h, zoneOfOffset_under h, onZoneNumbers_under h]
  split
  case h_1 => rw [Zone.momentOfText_under h names]
  case h_22 =>
    split
    · exact unfit _ _ (List.mem_singleton_self _)
    · rfl
  all_goals rfl

end Zone

theorem onZonedDate_under {d : ZonedDate} (h : d.state.Portable) (a : Action) {args : List Value}
    (hargs : ∀ v ∈ args, v.Obeys portable) : onZonedDate (w.under r) d a args = onZonedDate w d a args := by
  unfold onZonedDate
  simp only [addTime_under (v := .zonedDate d) h]
  split
  case h_8 z =>
    have hz : z.Portable := hargs (.zone z) (by simp)
    simp only [ZonedDate.inZone, Zone.dateOfUtc_under hz]
  all_goals rfl

theorem onMoment_under (x : ZonedDateTime) (a : Action) {args : List Value} (hargs : ∀ v ∈ args, v.Obeys portable) :
    onMoment (w.under r) x a args = onMoment w x a args := by
  unfold onMoment
  split
  case h_17 z =>
    have hz : z.Portable := hargs (.zone z) (by simp)
    simp only [ZonedDateTime.inZone, Zone.momentOfUtc_under hz]
  all_goals rfl

theorem onSingle_under {v : Value} (h : v.Obeys portable) (a : Action) (args : List Value) :
    onSingle (w.under r) v a args = onSingle w v a args := by
  simp only [onSingle, addTime_under (v := .single v) h]

theorem onAmbiguous_under {v u : Value} (hv : v.Obeys portable) (hu : u.Obeys portable) (a : Action)
    (args : List Value) : onAmbiguous (w.under r) v u a args = onAmbiguous w v u a args := by
  simp only [onAmbiguous, addTime_under (v := .ambiguous v u) ⟨hv, hu⟩]

theorem once_under {a : Action} {v : Value} {args : List Value} (h : v.Obeys portable)
    (hargs : ∀ v ∈ args, v.Obeys portable)
    (names : a.AsksZoneName args → System.zoneNames w.system = System.zoneNames r) :
    a.once (w.under r) v args = a.once w v args := by
  unfold once
  split
  · rfl
  · cases v with
    | date d => exact onDate_under d a args
    | zone z => exact onZone_under h hargs names
    | zonedDate d => exact onZonedDate_under h a hargs
    | moment x => exact onMoment_under x a hargs
    | single v => exact onSingle_under (v := v) h a args
    | ambiguous v u => exact onAmbiguous_under h.1 h.2 a args
    | _ => rfl

/-- What an action does with portable values does not depend on the rule of the system's zone, but for
the names by which a text may call a zone. -/
theorem perform_under (a : Action) {v : Value} {args : List Value} (h : v.Obeys portable)
    (hargs : ∀ v ∈ args, v.Obeys portable)
    (names : a.AsksZoneName args → System.zoneNames w.system = System.zoneNames r) :
    a.perform (w.under r) v args = a.perform w v args := by
  fun_induction a.perform w v args with
  | case1 a v ih =>
    simp only [perform, ih h names]
  | case2 a v u ihV ihU =>
    simp only [perform, ihV h.1 names, ihU h.2 names]
  | case3 v a hSingle hAmbiguous =>
    rw [perform]
    · exact hSingle
    · exact hAmbiguous
  | case4 t a notEach =>
    rw [perform]
    · exact once_under h hargs names
    · exact notEach

end Action

/-! ### Makers -/

namespace Maker

theorem ofNumbers_under {m : Maker} (h : ¬ m.UsesSystem) (args : List Int) :
    m.ofNumbers (w.under r) args = m.ofNumbers w args := by
  unfold ofNumbers
  simp only [Zone.now_under]
  split
  case h_20 | h_21 => exact absurd trivial h
  all_goals rfl

/-- A maker that does not make the system's zone does not look at it either. -/
theorem make_under {m : Maker} (h : ¬ m.UsesSystem) (args : List Value) :
    m.make (w.under r) args = m.make w args := by
  unfold make
  split
  case h_8 => simp only [ofCounts, ofNumbers_under (m := .dateTimeOfPlain) id]
  case h_15 => simp only [ofCounts, ofNumbers_under h]
  all_goals rfl

end Maker

end Under

end CivilTime
