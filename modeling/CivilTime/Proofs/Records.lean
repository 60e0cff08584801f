/-
  CivilTime.Proofs.Records — what is written to the log when a reading is resolved.

  The notes that the library writes to its log are its records (`Traced.records`); questions to a zone outside it
  are that zone's affair. A step can be quiet, or follow another one: it writes what that one writes, and fails
  where that one fails.

  A zone takes a reading to UTC as one shown for the first time, and looks at what it shows there
  (`Zone.comesBack?`). The reading is skipped if that is another one (`Zone.SkipsReading`). It is repeated if that
  is the reading itself, which would have another offset when shown for the second time (`Zone.RepeatsReading`).
  If the way to UTC or back leaves the calendar it is neither.

  Main statement: whoever looks for the candidates of a reading writes one record just if the reading is the one or
  the other, and is refused where it is skipped (`reportsOn_candidates`). The system's clock compares two moments,
  not two offsets; that comes to the same because the reading is shown at both (`System.earlier_eq_later_iff`).
-/

import CivilTime.Proofs.Region.Faithful
import CivilTime.Proofs.System.Search

namespace CivilTime

open CivilDateTime (InCalendar)

def Note.IsRecord : Note → Bool
  | clockRead _ | irregular _ _ _ => true
  | asked _ => false

/-! ## Quiet steps, and steps that follow others -/

namespace Traced

variable {α β : Type}

def records (t : Traced α) : List Note := t.notes.filter Note.IsRecord

def Quiet (t : Traced α) : Prop := t.records = []

/-- The step writes what another one writes, and fails where that one fails. -/
structure Follows (t : Traced β) (first : Traced α) : Prop where
  records : t.records = first.records
  fails : ∀ f, first.result = .error f → t.result = .error f

variable {t : Traced α} {f : α → Traced β}

theorem quiet_pure (a : α) : (pure a : Traced α).Quiet := rfl

theorem quiet_fault (e : Fault) : (fault e : Traced α).Quiet := rfl

theorem quiet_fail (e : Failure) : (fail e : Traced α).Quiet := rfl

theorem quiet_lift {ε : Type} (asFault : ε → Fault) (e : Except ε α) : (lift asFault e).Quiet := by
  cases e <;> rfl

theorem quiet_of (e : Except Failure α) : (of e).Quiet := quiet_lift _ e

theorem records_bind_of_ok {a : α} (h : t.result = .ok a) : (t >>= f).records = t.records ++ (f a).records := by
  rw [bind_of_ok h]
  exact List.filter_append ..

theorem records_bind_of_error {e : Fault} (h : t.result = .error e) : (t >>= f).records = t.records := by
  rw [bind_of_error h]
  rfl

theorem records_bind (quiet : ∀ a, (f a).Quiet) : (t >>= f).records = t.records := by
  cases h : t.result with
  | error e => exact records_bind_of_error h
  | ok a => rw [records_bind_of_ok h, quiet a, List.append_nil]

theorem quiet_bind (h : t.Quiet) (quiet : ∀ a, (f a).Quiet) : (t >>= f).Quiet := (records_bind quiet).trans h

theorem follows_bind (quiet : ∀ a, (f a).Quiet) : (t >>= f).Follows t :=
  ⟨records_bind quiet, fun _ h => result_bind_of_error h⟩

/-- After a quiet step that succeeds it is the next one that counts. -/
theorem follows_of_quiet {a : α} (quiet : t.Quiet) (h : t.result = .ok a) : (t >>= f).Follows (f a) where
  records := by rw [records_bind_of_ok h, quiet, List.nil_append]
  fails e he := by rw [result_bind_of_ok h, he]

end Traced

open Traced (quiet_pure quiet_of follows_bind)

/-! ## Irregular readings -/

namespace Zone

/-- The offset of a reading in a zone when it is shown for the first or for the second time. In a region it is found
by the reading; on the system's clock it is the one in force at the moment that the reading is taken for, if
it can be taken to UTC and back inside the calendar. What is a day or more is no offset. -/
def offset? (w : World) (x : CivilDateTime) (f : Fold) : Zone → Option Offset
  | utc => some .zero
  | fixed o => some o
  | system => (System.utcOf w.system f x.timestamp).bind (System.offset? w.system)
  | region r => Offset.ofSeconds? (r.data.ofLocal x.timestamp f).offset
  | custom => none

/-- What a zone shows at the moment that it takes a reading for when this is shown for the first time. There is
nothing if that moment, or what is shown at it, lies outside the calendar. -/
def comesBack? (w : World) (x : CivilDateTime) : Zone → Option Int
  | utc => some x.timestamp
  | fixed o => if InCalendar (x.timestamp - o.seconds) then some x.timestamp else none
  | system => do
    let u ← System.utcOf w.system .first x.timestamp
    let o ← System.offset? w.system u
    return u + o.seconds
  | region r => do
    let o ← Offset.ofSeconds? (r.data.ofLocal x.timestamp .first).offset
    let u := x.timestamp - o.seconds
    let back := u + (r.data.clock u).offset
    if InCalendar u ∧ InCalendar back then some back else none
  | custom => none

/-- The reading does not come back from UTC as itself. -/
def SkipsReading (w : World) (x : CivilDateTime) (z : Zone) : Prop :=
  ∃ back, z.comesBack? w x = some back ∧ back ≠ x.timestamp

/-- The reading comes back from UTC, and has another offset when it is shown for the second time. -/
def RepeatsReading (w : World) (x : CivilDateTime) (z : Zone) : Prop :=
  z.comesBack? w x = some x.timestamp ∧
    ∃ o p, z.offset? w x .first = some o ∧ z.offset? w x .second = some p ∧ o ≠ p

def key? : Zone → Option String
  | region r => some r.key
  | _ => none

def record (x : CivilDateTime) (how : Irregularity) (z : Zone) : Note := .irregular x how z.key?

theorem not_skips_of_repeats {w : World} {x : CivilDateTime} {z : Zone} (h : z.RepeatsReading w x) :
    ¬ z.SkipsReading w x := by
  rintro ⟨back, comes, other⟩
  rw [h.1] at comes
  cases comes
  exact other rfl

end Zone

/-- A step that resolves a reading in a zone: there is one record just if the reading is irregular, and none else;
a reading that is skipped is refused. -/
structure Traced.ReportsOn {α : Type} (t : Traced α) (w : World) (z : Zone) (x : CivilDateTime) : Prop where
  repeated : t.records = [z.record x .ambiguous] ↔ z.RepeatsReading w x
  skipped : t.records = [z.record x .skipped] ↔ z.SkipsReading w x
  refused : z.SkipsReading w x → t.result = .error (.failure .invalidDateTime)
  regular : ¬ z.RepeatsReading w x → ¬ z.SkipsReading w x → t.Quiet

namespace Traced

variable {α β : Type} {t : Traced α} {w : World} {z : Zone} {x : CivilDateTime}

theorem reportsOn_of_repeats (h : z.RepeatsReading w x) (written : t.records = [z.record x .ambiguous]) :
    t.ReportsOn w z x where
  repeated := ⟨fun _ => h, fun _ => written⟩
  skipped := by
    rw [written]
    exact ⟨fun same => (by cases same), fun skips => absurd skips (Zone.not_skips_of_repeats h)⟩
  refused skips := absurd skips (Zone.not_skips_of_repeats h)
  regular unique := absurd h unique

theorem reportsOn_of_skips (h : z.SkipsReading w x) (written : t.records = [z.record x .skipped])
    (refused : t.result = .error (.failure .invalidDateTime)) : t.ReportsOn w z x where
  repeated := by
    rw [written]
    exact ⟨fun same => (by cases same), fun repeats => absurd h (Zone.not_skips_of_repeats repeats)⟩
  skipped := ⟨fun _ => h, fun _ => written⟩
  refused _ := refused
  regular _ shown := absurd h shown

theorem reportsOn_of_regular (unique : ¬ z.RepeatsReading w x) (shown : ¬ z.SkipsReading w x) (quiet : t.Quiet) :
    t.ReportsOn w z x where
  repeated := by
    rw [quiet]
    exact ⟨fun same => (by cases same), fun repeats => absurd repeats unique⟩
  skipped := by
    rw [quiet]
    exact ⟨fun same => (by cases same), fun skips => absurd skips shown⟩
  refused skips := absurd skips shown
  regular _ _ := quiet

/-- Where nothing comes back from UTC the reading is neither skipped nor repeated. -/
theorem reportsOn_of_lost (lost : z.comesBack? w x = none) (quiet : t.Quiet) : t.ReportsOn w z x := by
  refine reportsOn_of_regular ?_ ?_ quiet
  · rintro ⟨comes, -⟩
    rw [lost] at comes
    cases comes
  · rintro ⟨back, comes, -⟩
    rw [lost] at comes
    cases comes

/-- Nor is it where it comes back itself, if it has no other offset when it is shown for the second time. -/
theorem reportsOn_of_once (comes : z.comesBack? w x = some x.timestamp)
    (same : ∀ o p, z.offset? w x .first = some o → z.offset? w x .second = some p → o = p) (quiet : t.Quiet) :
    t.ReportsOn w z x := by
  refine reportsOn_of_regular ?_ ?_ quiet
  · rintro ⟨-, o, p, ho, hp, other⟩
    exact other (same o p ho hp)
  · rintro ⟨back, found, other⟩
    rw [comes] at found
    cases found
    exact other rfl

/-- What goes on from a step without records of its own reports the same. -/
theorem ReportsOn.of_follows {first : Traced β} (h : first.ReportsOn w z x) (follows : t.Follows first) :
    t.ReportsOn w z x where
  repeated := by rw [follows.records]; exact h.repeated
  skipped := by rw [follows.records]; exact h.skipped
  refused skips := follows.fails _ (h.refused skips)
  regular unique shown := follows.records.trans (h.regular unique shown)

/-- The second look at a reading that comes back itself: it is noted to be ambiguous unless the offset found for the
second time is the one of the first. -/
theorem reportsOn_second {σ : Type} (later : Traced σ) (same : σ → Prop) [DecidablePred same] (one two : σ → α)
    (comes : z.comesBack? w x = some x.timestamp) {o : Offset} (first : z.offset? w x .first = some o)
    (quiet : later.Quiet) (lost : ∀ e, later.result = .error e → z.offset? w x .second = none)
    (found : ∀ s, later.result = .ok s → ∃ p, z.offset? w x .second = some p ∧ (same s ↔ o = p)) :
    (do
      let s ← later
      if same s then return one s
      else
        note (z.record x .ambiguous)
        return two s : Traced α).ReportsOn w z x := by
  cases h : later.result with
  | error e =>
    refine reportsOn_of_once comes (fun o' p _ hp => ?_) ((records_bind_of_error h).trans quiet)
    rw [lost e h] at hp
    cases hp
  | ok s =>
    obtain ⟨p, second, same_iff⟩ := found s h
    refine ReportsOn.of_follows ?_ (follows_of_quiet quiet h)
    by_cases once : same s
    · rw [if_pos once]
      refine reportsOn_of_once comes (fun o' p' ho hp => ?_) (quiet_pure _)
      cases first.symm.trans ho
      cases second.symm.trans hp
      exact same_iff.mp once
    · rw [if_neg once]
      exact reportsOn_of_repeats ⟨comes, o, p, first, second, fun e => once (same_iff.mpr e)⟩ rfl

end Traced

open Traced (reportsOn_of_skips reportsOn_of_lost reportsOn_of_once reportsOn_second)

def Traced.Reports {α : Type} (t : Traced α) (w : World) : Option (Zone × CivilDateTime) → Prop
  | some (z, x) => t.ReportsOn w z x
  | none => t.Quiet

namespace Traced

variable {α β : Type} {t : Traced α} {f : α → Traced β} {w : World} {r : Option (Zone × CivilDateTime)}

theorem Reports.bind (h : t.Reports w r) (quiet : ∀ a, (f a).Quiet) : (t >>= f).Reports w r := by
  cases r with
  | none => exact quiet_bind h quiet
  | some zx => exact h.of_follows (follows_bind quiet)

theorem reports_of_none (h : r = none) (quiet : t.Quiet) : t.Reports w r := by
  rw [h]
  exact quiet

/-- After a quiet step the next one reports; if there is none, there is no reading either. -/
theorem reports_bind (quiet : t.Quiet) (lost : ∀ e, t.result = .error e → r = none)
    (next : ∀ a, t.result = .ok a → (f a).Reports w r) : (t >>= f).Reports w r := by
  cases h : t.result with
  | error e =>
    rw [lost e h]
    exact (records_bind_of_error h).trans quiet
  | ok a =>
    have report := next a h
    have follows : (t >>= f).Follows (f a) := follows_of_quiet quiet h
    cases r with
    | none => exact follows.records.trans report
    | some zx => exact report.of_follows follows

end Traced

/-! ## Candidates -/

namespace Region

variable {r : Region} {w : World} {x : CivilDateTime}

theorem offset?_eq (r : Region) (w : World) (x : CivilDateTime) (f : Fold) : (Zone.region r).offset? w x f =
    (r.offsetOf (r.data.ofLocal x.timestamp f)).toOption.map RegionOffset.offset := by
  show Offset.ofSeconds? _ = _
  unfold offsetOf
  cases Offset.ofSeconds? (r.data.ofLocal x.timestamp f).offset <;> rfl

theorem comesBack?_of_error {e : Fault} (he : r.offsetOf (r.data.ofLocal x.timestamp .first) = .error e) :
    (Zone.region r).comesBack? w x = none := by
  have given := offset?_eq r w x .first
  rw [he] at given
  exact congrArg (Option.bind · _) given

theorem comesBack?_of_ok {early : RegionOffset} (he : r.offsetOf (r.data.ofLocal x.timestamp .first) = .ok early) :
    (Zone.region r).comesBack? w x =
      if InCalendar (x.timestamp - early.offset.seconds) ∧ InCalendar (x.timestamp - early.offset.seconds +
          (r.data.clock (x.timestamp - early.offset.seconds)).offset) then
        some (x.timestamp - early.offset.seconds + (r.data.clock (x.timestamp - early.offset.seconds)).offset)
      else none := by
  have given := offset?_eq r w x .first
  rw [he] at given
  exact congrArg (Option.bind · _) given

theorem reportsOn_candidates (r : Region) (w : World) (x : CivilDateTime) :
    (r.candidates x).ReportsOn w (.region r) x := by
  have given := offset?_eq r w x
  unfold candidates
  dsimp only
  cases he : r.offsetOf (r.data.ofLocal x.timestamp .first) with
  | error e => exact reportsOn_of_lost (comesBack?_of_error he) rfl
  | ok early =>
    have comes := comesBack?_of_ok (w := w) he
    rw [Traced.lift_ok, pure_bind]
    generalize x.timestamp - early.offset.seconds = u at comes
    -- each step that may fail is one that the reading has to survive in order to come back
    by_cases inside : InCalendar u
    case neg =>
      rw [if_pos inside]
      exact reportsOn_of_lost (comes.trans (if_neg fun both => inside both.1)) rfl
    rw [if_neg (not_not_intro inside)]
    cases hs : r.shown u with
    | error e =>
      have outside := (shown_eq_error hs).2
      exact reportsOn_of_lost (comes.trans (if_neg fun both => outside both.2)) rfl
    | ok found =>
      obtain ⟨back, fold⟩ := found
      obtain ⟨insideBack, shows, -⟩ := shown_eq_ok.mp hs
      rw [shows, if_pos ⟨inside, insideBack⟩] at comes
      show (if back ≠ x.timestamp then _ else _ : Traced (Resolution RegionOffset)).ReportsOn w (.region r) x
      by_cases same : back = x.timestamp
      case neg =>
        rw [if_pos same]
        exact reportsOn_of_skips ⟨back, comes, same⟩ rfl rfl
      -- it has come back as itself, and what is left is the second look
      subst same
      rw [if_neg (not_not_intro rfl)]
      have first := given .first
      rw [he] at first
      have second := given .second
      refine reportsOn_second (.lift id (r.offsetOf (r.data.ofLocal x.timestamp .second))) (early.offset = ·.offset)
        (fun _ => Resolution.single early) (Resolution.ambiguous early) comes first (Traced.quiet_lift _ _) ?_ ?_
      · intro e none
        rw [second]
        cases hl : r.offsetOf (r.data.ofLocal x.timestamp .second) with
        | error e => rfl
        | ok late => rw [hl] at none; cases none
      · intro late hl
        rw [Traced.lift_result_eq_ok.mp hl] at second
        exact ⟨late.offset, second, Iff.rfl⟩

end Region

namespace System

variable {r : ZoneRule} {x : CivilDateTime} {early late : Int} {p q : Offset}

/-- The two moments that a reading is taken for differ just if their offsets do: the reading is shown at both. -/
theorem earlier_eq_later_iff (hp : offset? r early = some p) (shown : early + p.seconds = x.timestamp)
    (hl : utcOf r .second x.timestamp = some late) (hq : offset? r late = some q) : early = late ↔ p = q := by
  have shownLater := shown_of_utcOf hp shown hl hq
  rw [Offset.ext_iff]
  omega

theorem of_orInvalid_some {α : Type} (a : α) : Traced.of (orInvalid (some a)) = pure a := rfl

/-- The moment of a reading that is shown for the second time, and the offset there. -/
def later (r : ZoneRule) (t : Int) : Traced (Int × Offset) := do
  let late ← .of (orInvalid (utcOf r .second t))
  return (late, ← .of (orInvalid (offset? r late)))

theorem quiet_later (r : ZoneRule) (t : Int) : (later r t).Quiet :=
  Traced.quiet_bind (quiet_of _) fun _ => Traced.quiet_bind (quiet_of _) fun _ => quiet_pure _

theorem later_eq_ok {t : Int} :
    (later r t).result = .ok (late, q) ↔ utcOf r .second t = some late ∧ offset? r late = some q := by
  simp only [later, Traced.result_bind_eq_ok, of_orInvalid_eq_ok, Traced.pure_result, Except.ok.injEq, Prod.mk.injEq]
  constructor
  · rintro ⟨u, hu, o, ho, rfl, rfl⟩
    exact ⟨hu, ho⟩
  · exact fun ⟨hu, ho⟩ => ⟨late, hu, q, ho, rfl, rfl⟩

theorem offset?_second_eq_some (w : World) :
    Zone.system.offset? w x .second = some q ↔ ∃ late, (later w.system x.timestamp).result = .ok (late, q) := by
  simp only [later_eq_ok]
  exact Option.bind_eq_some_iff

theorem comesBack?_eq (w : World) (x : CivilDateTime) : Zone.system.comesBack? w x =
    (utcOf w.system .first x.timestamp).bind fun u => (offset? w.system u).map (u + ·.seconds) := by
  unfold Zone.comesBack?
  cases utcOf w.system .first x.timestamp with
  | none => rfl
  | some u => cases h : offset? w.system u <;> simp [h]

theorem reportsOn_candidates (w : World) (x : CivilDateTime) : (candidates w.system x).ReportsOn w .system x := by
  have comes := comesBack?_eq w x
  unfold candidates
  dsimp only
  cases he : utcOf w.system .first x.timestamp with
  | none => exact reportsOn_of_lost (by rw [comes, he]; rfl) rfl
  | some early =>
    rw [of_orInvalid_some, pure_bind]
    cases hp : offset? w.system early with
    | none => exact reportsOn_of_lost (by rw [comes, he, Option.bind_some, hp]; rfl) rfl
    | some p =>
      rw [he, Option.bind_some, hp] at comes
      rw [of_orInvalid_some, pure_bind]
      by_cases shown : early + p.seconds = x.timestamp
      case neg =>
        rw [if_pos shown]
        exact reportsOn_of_skips ⟨_, comes, shown⟩ rfl rfl
      rw [if_neg (not_not_intro shown)]
      -- it has come back as itself, and what is left is the second look
      have comes : Zone.system.comesBack? w x = some x.timestamp := comes.trans (congrArg some shown)
      have first : Zone.system.offset? w x .first = some p := (congrArg (Option.bind · _) he).trans hp
      have report := reportsOn_second (later w.system x.timestamp) (early = ·.1) (fun _ => Resolution.single p)
        (fun s => .ambiguous p s.2) comes first (quiet_later _ _) ?_ ?_
      · simp only [later, bind_assoc, pure_bind] at report
        exact report
      · intro e none
        refine Option.eq_none_iff_forall_ne_some.mpr fun q given => ?_
        obtain ⟨late, found⟩ := (offset?_second_eq_some w).mp given
        cases none.symm.trans found
      · intro ⟨late, q⟩ found
        obtain ⟨hl, hq⟩ := later_eq_ok.mp found
        exact ⟨q, (offset?_second_eq_some w).mpr ⟨late, found⟩, earlier_eq_later_iff hp shown hl hq⟩

end System

namespace Zone

variable {w : World} {z : Zone} {x : CivilDateTime}

theorem quiet_ask (q : Question) (answer : Except Fault Offset) : (ask q answer).Quiet :=
  Traced.quiet_bind rfl fun _ => Traced.quiet_bind (Traced.quiet_lift _ _) fun s => quiet_pure (ZoneState.custom s)

/-- Only the system's zone and regions skip readings or repeat them. -/
theorem system_or_region_of_irregular (h : z.SkipsReading w x ∨ z.RepeatsReading w x) :
    z = .system ∨ ∃ r, z = .region r := by
  cases z with
  | system => exact .inl rfl
  | region r => exact .inr ⟨r, rfl⟩
  | custom => rcases h with ⟨back, comes, -⟩ | ⟨comes, -⟩ <;> cases comes
  | utc | fixed o =>
    exfalso
    rcases h with ⟨back, comes, other⟩ | ⟨-, o, p, ho, hp, other⟩
    · grind [comesBack?]
    · cases ho
      cases hp
      exact other rfl

theorem reportsOn_elsewhere {α : Type} {t : Traced α} (elsewhere : ¬ (z = .system ∨ ∃ r, z = .region r))
    (quiet : t.Quiet) : t.ReportsOn w z x :=
  Traced.reportsOn_of_regular (fun repeats => elsewhere (system_or_region_of_irregular (.inr repeats)))
    (fun skips => elsewhere (system_or_region_of_irregular (.inl skips))) quiet

/-- Whoever looks for the candidates of a reading writes one record if the reading is irregular, and none if not. -/
theorem reportsOn_candidates (w : World) (z : Zone) (x : CivilDateTime) : (z.candidates w x).ReportsOn w z x := by
  cases z with
  | system => exact (System.reportsOn_candidates w x).of_follows (follows_bind fun _ => quiet_pure _)
  | region r => exact (Region.reportsOn_candidates r w x).of_follows (follows_bind fun _ => quiet_pure _)
  | utc => exact reportsOn_elsewhere (by simp) (quiet_pure _)
  | fixed o => exact reportsOn_elsewhere (by simp) (quiet_pure _)
  | custom => exact reportsOn_elsewhere (by simp) (Traced.quiet_bind (quiet_ask _ _) fun _ => quiet_pure _)

/-- A date stands for its midnight. -/
theorem reportsOn_dateCandidates (w : World) (z : Zone) (d : CivilDate) :
    (z.dateCandidates w d).ReportsOn w z (.startOf d) := by
  have ofMidnight := reportsOn_candidates w z (.startOf d)
  cases z with
  | custom => exact reportsOn_elsewhere (by simp) (Traced.quiet_bind (quiet_ask _ _) fun _ => quiet_pure _)
  | _ => exact ofMidnight

end Zone

end CivilTime
