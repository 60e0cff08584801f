/-
  CivilTime.Proofs.Obeying — operations on values that obey a law make values that obey it.

  A value obeys a law if the zones, the states of dates and the moments in it do, at whatever depth.
  Under a closed law every maker and every action keeps to this: what it makes of its own is plain or
  comes from one of the ways in `CivilTime.Proofs.Law`, and the rest it hands on as it was
  (`obeys_make`, `obeys_perform`), and so does every step of a session (`obeys_answer`). Only the makers of
  the system's zone and of the zone outside the library need these zones to be lawful. A step never changes
  which regions are known, so all steps of a program keep to a law that is closed wherever these are
  (`obeys_replies`).
-/

import CivilTime.Program
import CivilTime.Proofs.Law
import CivilTime.Proofs.Region.Bounds
import CivilTime.Proofs.Sorting

namespace CivilTime

open Traced (ensures_pure ensures_bind ensures_then ensures_fault ensures_fail ensures_lift)

namespace Value

mutual

/-- The zones, the states of dates and the moments in a value are such as the law has them. -/
def Obeys (L : Law) : Value → Prop
  | zone z => L.zone z
  | zonedDate d => L.state d.state
  | moment m => L.moment m
  | single v => v.Obeys L
  | ambiguous a b => a.Obeys L ∧ b.Obeys L
  | list vs => ObeysAll L vs
  | _ => True

def ObeysAll (L : Law) : List Value → Prop
  | [] => True
  | v :: vs => v.Obeys L ∧ ObeysAll L vs

end

variable {L : Law}

theorem obeysAll_iff {vs : List Value} : ObeysAll L vs ↔ ∀ v ∈ vs, v.Obeys L := by
  induction vs with
  | nil => simp [ObeysAll]
  | cons v vs ih => simp [ObeysAll, ih]

/-! ## Values made of others -/

theorem obeys_ofState {w : World} (closed : L.Closed w) (s : ZoneState) : (ofState s).Obeys L := by
  cases s with
  | utc => exact closed.utc
  | region o => trivial
  | fixed o | system o | custom o => exact closed.fixed o

theorem obeys_ofOption {α : Type} {f : α → Value} (h : ∀ a, (f a).Obeys L) (o : Option α) :
    (ofOption f o).Obeys L := by
  cases o with
  | none => trivial
  | some a => exact h a

theorem obeys_ofResolution {α : Type} {f : α → Value} {res : Resolution α} (h : ∀ a ∈ res.toList, (f a).Obeys L) :
    (ofResolution f res).Obeys L := by
  cases res with
  | single a => exact h a (by simp [Resolution.toList])
  | ambiguous a b => exact ⟨h a (by simp [Resolution.toList]), h b (by simp [Resolution.toList])⟩

theorem obeys_sorted {vs out : List Value} (hvs : ∀ v ∈ vs, v.Obeys L) (h : sorted vs = .ok out) :
    (list out).Obeys L :=
  obeysAll_iff.mpr fun v hv => hvs v ((sorted_perm h).mem_iff.mp hv)

theorem obeys_comparisons (a b : Value) : (list (a.comparisons b)).Obeys L := by
  unfold comparisons
  cases order a b with
  | ok o => exact ⟨trivial, trivial, trivial, trivial, trivial, trivial, trivial⟩
  | error f => exact ⟨trivial, trivial, trivial, trivial, trivial, trivial, trivial⟩

theorem pack_unpack (x : ZonedDateTime) : x.pack.unpack = .ok x := by
  unfold ZonedDateTime.Packed.unpack ZonedDateTime.pack
  rw [CivilDateTime.ofTimestamp_timestamp]
  rfl

mutual

/-- Every value arrives as it was sent. -/
theorem transported_eq : ∀ v : Value, v.transported = .ok v
  | moment x => by simp only [transported, pack_unpack]; rfl
  | single v => by simp only [transported, transported_eq v]; rfl
  | ambiguous a b => by simp only [transported, transported_eq a, transported_eq b]; rfl
  | list vs => by simp only [transported, transportedAll_eq vs]; rfl
  | null | flag _ | int _ | text _ | pair _ _ | date _ | clockTime _ | dateTime _ | plainDate _ | plainTime _
  | plainDateTime _ | zone _ | regionOffset _ | zonedDate _ | failureKind _ | failure _ => rfl

theorem transportedAll_eq : ∀ vs : List Value, transportedAll vs = .ok vs
  | [] => rfl
  | v :: vs => by simp only [transportedAll, transported_eq v, transportedAll_eq vs]; rfl

end

end Value

/-! ## Makers -/

namespace Maker

def UsesSystem : Maker → Prop
  | system | systemNow | systemToday => True
  | _ => False

variable {L : Law} {w : World} (closed : L.Closed w)

include closed

theorem obeys_offset (s : Int) : (offset s).Ensures (Value.Obeys L) := by
  unfold offset
  split
  · exact ensures_pure (closed.fixed _)
  · exact ensures_fault _

theorem obeys_offsetOrNone (s : Int) : (offsetOrNone s).Obeys L :=
  Value.obeys_ofOption (f := fun o => .zone (.fixed o)) closed.fixed _

theorem obeys_today {t : Traced ZonedDateTime} (h : t.Ensures L.moment) :
    (do return Value.zonedDate (← .of (← t).date)).Ensures (Value.Obeys L) :=
  ensures_bind h fun _ allowed => ensures_bind (ensures_lift fun _ hd => closed.date allowed hd)
    fun _ allowed => ensures_pure allowed

theorem obeys_ofNumbers (m : Maker) (system : m.UsesSystem → L.zone .system) (args : List Int) :
    (m.ofNumbers w args).Ensures (Value.Obeys L) := by
  unfold ofNumbers
  split
  case h_13 | h_14 =>
    split
    · exact ensures_then fun _ => ensures_pure trivial
    · exact ensures_fault _
  case h_18 => exact ensures_bind (closed.now _) fun _ allowed => ensures_pure allowed
  case h_19 => exact obeys_today closed (closed.now _)
  case h_20 =>
    refine ensures_then fun x => ensures_bind (closed.momentOfUtc (system trivial) x.utc) fun _ allowed => ?_
    exact ensures_pure allowed
  case h_21 => exact ensures_then fun x => obeys_today closed (closed.momentOfUtc (system trivial) x.utc)
  all_goals first
    | exact obeys_offset closed _
    | exact ensures_pure (obeys_offsetOrNone closed _)
    | exact ensures_fault _
    | exact ensures_then fun _ => ensures_pure trivial

theorem obeys_ofCounts (m : Maker) (system : m.UsesSystem → L.zone .system) (args : List Value) :
    (m.ofCounts w args).Ensures (Value.Obeys L) := by
  unfold ofCounts
  split
  · exact obeys_ofNumbers closed m system _
  · exact ensures_fault _

/-- What a maker makes of values that obey the law obeys it, if the maker may use the system's zone. -/
theorem obeys_make (m : Maker) (system : m.UsesSystem → L.zone .system) {args : List Value}
    (hargs : ∀ v ∈ args, v.Obeys L) : (m.make w args).Ensures (Value.Obeys L) := by
  unfold make
  split
  · exact ensures_pure closed.utc
  · exact ensures_pure (system trivial)
  · exact ensures_bind (ensures_lift fun r h => closed.region _ r h) fun _ allowed => ensures_pure allowed
  · exact ensures_pure trivial
  · exact ensures_pure trivial
  · exact ensures_pure trivial
  · split
    · exact ensures_pure trivial
    · exact ensures_fault _
  · exact ensures_then fun _ => ensures_fault _
  · rename_i v
    exact ensures_pure (hargs v (by simp))
  · rename_i a b
    exact ensures_pure ⟨hargs a (by simp), hargs b (by simp)⟩
  · split
    · exact ensures_pure trivial
    · exact ensures_fault _
  · exact ensures_fault _
  · split
    · exact ensures_pure trivial
    · exact ensures_fault _
  · exact ensures_bind (ensures_lift fun _ h => Value.obeys_sorted hargs h) fun _ allowed => ensures_pure allowed
  · exact obeys_ofCounts closed _ system _

end Maker

/-! ## Actions -/

namespace Action

variable {L : Law} {w : World}

/-! ### Without a zone -/

theorem obeys_onAny (a : Action) {v : Value} (args : List Value) (hv : v.Obeys L) :
    (a.onAny v args).Ensures (Value.Obeys L) := by
  unfold onAny
  split
  · split
    · exact ensures_then fun _ => ensures_pure trivial
    · exact ensures_fault _
  · split
    · exact ensures_then fun _ => ensures_pure trivial
    · exact ensures_fault _
  · split
    · exact ensures_pure (Value.obeys_comparisons _ _)
    · exact ensures_fault _
  · split
    · split
      · exact ensures_pure trivial
      · exact ensures_fault _
    · exact ensures_fault _
  · exact ensures_pure trivial
  · exact ensures_pure hv
  · refine ensures_lift fun u hu => ?_
    rw [Value.transported_eq] at hu
    cases hu
    exact hv
  · exact ensures_fault _

theorem obeys_onTime (t : ClockTime) (a : Action) (args : List Value) :
    (onTime t a args).Ensures (Value.Obeys L) := by
  unfold onTime
  split
  case h_7 => exact ensures_fault _
  all_goals exact ensures_pure trivial

theorem obeys_onDateTime (x : CivilDateTime) (a : Action) (args : List Value) :
    (onDateTime x a args).Ensures (Value.Obeys L) := by
  unfold onDateTime
  split <;> first
    | exact ensures_pure trivial
    | exact ensures_then fun _ => ensures_pure trivial
    | exact ensures_fault _

/-- Adding what is no time of day makes nothing. -/
theorem not_addUnfitTime {P : Value → Prop} (d : ZonedDate) (v : Value) : (addUnfitTime w d v).Ensures P := by
  unfold addUnfitTime
  dsimp only
  refine ensures_then fun z => ?_
  split
  case h_3 => refine ensures_then fun _ => ensures_then fun _ => ?_; split <;> (try split) <;> exact ensures_fault _
  all_goals (try split) <;> (try split) <;> exact ensures_fault _

section Closed

variable (closed : L.Closed w)

include closed

/-! ### Times of day -/

theorem obeys_withTime (a : Action) (args : List Value) :
    ∀ {v : Value}, v.Obeys L → (withTime w a args v).Ensures (Value.Obeys L)
  | .date d, _ => by
    unfold withTime
    split
    · exact ensures_then fun _ => ensures_pure trivial
    · exact ensures_fault _
  | .zonedDate d, allowed => by
    unfold withTime
    split
    · exact ensures_then fun t => ensures_bind (closed.atTime allowed t) fun _ allowed => ensures_pure allowed
    · exact not_addUnfitTime d _
    · exact ensures_fault _
  | .single v, hv => by
    unfold withTime
    exact ensures_bind (obeys_withTime a args (v := v) hv) fun _ allowed => ensures_pure allowed
  | .ambiguous _ _, _ => by unfold withTime; exact ensures_fail _
  | .null, _ | .flag _, _ | .int _, _ | .text _, _ | .pair _ _, _ | .list _, _ | .clockTime _, _ | .dateTime _, _
  | .plainDate _, _ | .plainTime _, _ | .plainDateTime _, _ | .zone _, _ | .regionOffset _, _ | .moment _, _
  | .failureKind _, _ | .failure _, _ => by unfold withTime; exact ensures_fault _

theorem obeys_addTime (a : Action) (args : List Value) {v : Value} (hv : v.Obeys L) :
    (a.addTime w args v).Ensures (Value.Obeys L) := by
  unfold addTime
  split
  · exact obeys_withTime closed a args hv
  · exact ensures_fault _

/-! ### Dates and offsets -/

theorem obeys_onDate (d : CivilDate) (a : Action) (args : List Value) :
    (onDate w d a args).Ensures (Value.Obeys L) := by
  unfold onDate
  split
  case h_8 => exact obeys_addTime closed _ _ trivial
  all_goals exact ensures_pure trivial

theorem obeys_onRegionOffset (o : RegionOffset) (a : Action) (args : List Value) :
    (onRegionOffset o a args).Ensures (Value.Obeys L) := by
  unfold onRegionOffset
  split
  · exact ensures_pure trivial
  · exact ensures_pure (Value.obeys_ofOption (f := .text) (fun _ => trivial) _)
  · exact ensures_pure (closed.fixed _)
  · exact ensures_fault _

/-! ### Zones -/

theorem obeys_onUnfit (z : Zone) (r : Resolver) (a : Action) (v : Value) : (onUnfit w z r a v).Ensures (Value.Obeys L) := by
  refine ensures_then fun s => ?_
  split
  · exact ensures_pure (Value.obeys_ofState closed _)
  · exact ensures_pure (Value.obeys_ofState closed _)
  · exact ensures_pure (Value.obeys_ofState closed _)
  · exact ensures_pure (Value.obeys_ofState closed _)
  · exact ensures_fault _
  · exact ensures_fault _
  · exact ensures_fault _

section

variable {z : Zone} (allowed : L.zone z)

include allowed

theorem obeys_zoneOfOffset {v : Value} (hv : v.Obeys L) : (zoneOfOffset w v z).Ensures (Value.Obeys L) := by
  cases z with
  | utc => exact ensures_pure closed.utc
  | fixed o => exact ensures_pure hv
  | system => exact ensures_pure allowed
  | custom => exact ensures_then fun _ => ensures_then fun _ => ensures_pure allowed
  | region r =>
    simp only [zoneOfOffset]
    split
    · exact ensures_bind (ensures_lift fun r h => closed.region _ r h) fun _ allowed => ensures_pure allowed
    · exact ensures_bind (ensures_lift fun r h => closed.region _ r h) fun _ allowed => ensures_pure allowed
    · exact ensures_fault _

theorem obeys_onZoneNumbers (a : Action) (args : List Int) : (onZoneNumbers w z a args).Ensures (Value.Obeys L) := by
  unfold onZoneNumbers
  have date {t : Traced CivilDate} : (do z.dateOfLocal w (← t)).Ensures (L.state ·.state) :=
    ensures_then fun d => closed.dateOfLocal allowed d
  have moment (secs nanos : Int) := closed.momentOfTimestamp allowed secs nanos
  split
  · exact ensures_bind date fun _ allowed => ensures_pure allowed
  · exact ensures_bind date fun _ allowed => ensures_pure allowed
  · exact ensures_bind date fun _ allowed => ensures_pure allowed
  · exact ensures_bind (moment _ _) fun _ allowed => ensures_pure allowed
  · exact ensures_bind (moment _ _) fun _ allowed => ensures_pure allowed
  · exact ensures_bind (moment _ _) fun _ allowed => ensures_pure allowed
  · exact ensures_bind (moment _ _) fun _ allowed => ensures_pure allowed
  · exact ensures_fault _

theorem obeys_onOnlyState {s : ZoneState} (hs : z.onlyState? = some s) (a : Action) (args : List Value) :
    (onOnlyState z s a args).Ensures (Value.Obeys L) := by
  have moment := closed.onlyState allowed hs
  unfold onOnlyState
  split
  · exact ensures_pure (closed.fixed _)
  · exact ensures_pure (Value.obeys_ofState closed _)
  · exact ensures_pure (Value.obeys_ofState closed _)
  · rename_i d
    exact ensures_pure (closed.state _ (moment (.startOf d)))
  · exact ensures_pure (moment _)
  · exact ensures_pure trivial
  · exact ensures_pure trivial
  · exact ensures_fault _

theorem obeys_onZone (a : Action) {args : List Value} (hargs : ∀ v ∈ args, v.Obeys L) :
    (onZone w z a args).Ensures (Value.Obeys L) := by
  unfold onZone
  split
  · exact ensures_bind (closed.momentOfText allowed _ _) fun _ allowed => ensures_pure allowed
  · exact ensures_fault _
  · exact ensures_fault _
  · exact ensures_bind (closed.dateOfLocal allowed _) fun _ allowed => ensures_pure allowed
  · exact ensures_bind (closed.momentOfLocal allowed _) fun _ allowed => ensures_pure allowed
  · exact ensures_bind (closed.dateOfUtc allowed _) fun _ allowed => ensures_pure allowed
  · exact ensures_bind (closed.momentOfUtc allowed _) fun _ allowed => ensures_pure allowed
  · exact ensures_bind (closed.resolveDate allowed _) fun _ all => ensures_pure (Value.obeys_ofResolution all)
  · exact ensures_bind (closed.resolve allowed _) fun _ all => ensures_pure (Value.obeys_ofResolution all)
  · exact ensures_then fun _ => ensures_pure (Value.obeys_ofState closed _)
  · exact ensures_then fun _ => ensures_pure (Value.obeys_ofState closed _)
  · exact ensures_then fun _ => ensures_pure (Value.obeys_ofState closed _)
  · exact ensures_then fun _ => ensures_pure (Value.obeys_ofState closed _)
  · rename_i v
    exact obeys_zoneOfOffset closed allowed (hargs v (by simp))
  · split
    · exact ensures_pure trivial
    · exact ensures_fault _
  case h_22 =>
    split
    · exact obeys_onUnfit closed _ _ _ _
    · split
      · exact obeys_onOnlyState closed allowed ‹_› _ _
      · exact ensures_fault _
  all_goals
    split
    · exact obeys_onZoneNumbers closed allowed _ _
    · exact ensures_fault _

end

/-! ### Zoned values -/

theorem obeys_onZonedDate {d : ZonedDate} (allowed : L.state d.state) (a : Action) {args : List Value}
    (hargs : ∀ v ∈ args, v.Obeys L) : (onZonedDate w d a args).Ensures (Value.Obeys L) := by
  unfold onZonedDate
  split
  · exact ensures_pure trivial
  · exact ensures_pure trivial
  · exact ensures_pure trivial
  · exact ensures_pure trivial
  · exact ensures_pure trivial
  · exact ensures_pure (Value.obeys_ofState closed _)
  · exact ensures_bind (closed.ofState _ allowed) fun _ allowed => ensures_pure allowed
  · rename_i z
    have allowed : L.zone z := hargs (.zone z) (by simp)
    exact ensures_bind (closed.dateOfUtc allowed _) fun _ allowed => ensures_pure allowed
  · exact ensures_fault _
  · exact obeys_addTime closed _ _ allowed

theorem obeys_onMoment {m : ZonedDateTime} (allowed : L.moment m) (a : Action) {args : List Value}
    (hargs : ∀ v ∈ args, v.Obeys L) : (onMoment w m a args).Ensures (Value.Obeys L) := by
  unfold onMoment
  split
  case h_10 => exact ensures_pure (Value.obeys_ofState closed _)
  case h_11 => exact ensures_bind (closed.ofState _ (closed.state m allowed)) fun _ allowed => ensures_pure allowed
  case h_12 =>
    exact ensures_bind (ensures_lift fun _ hd => closed.date allowed hd) fun _ allowed => ensures_pure allowed
  case h_17 z =>
    have allowed : L.zone z := hargs (.zone z) (by simp)
    exact ensures_bind (closed.momentOfUtc allowed _) fun _ allowed => ensures_pure allowed
  case h_19 => exact ensures_pure (closed.withFixedOffset m)
  -- the other answers are numbers, times and readings without a zone, or there is none
  all_goals first
    | exact ensures_pure trivial
    | exact ensures_then fun _ => ensures_pure trivial
    | exact ensures_fault _

/-! ### Resolutions -/

theorem obeys_onSingle {v : Value} (hv : v.Obeys L) (a : Action) (args : List Value) :
    (onSingle w v a args).Ensures (Value.Obeys L) := by
  unfold onSingle
  split
  case h_6 => exact obeys_addTime closed _ _ hv
  all_goals exact ensures_pure hv

theorem obeys_onAmbiguous {v u : Value} (hv : v.Obeys L) (hu : u.Obeys L) (a : Action) (args : List Value) :
    (onAmbiguous w v u a args).Ensures (Value.Obeys L) := by
  unfold onAmbiguous
  split
  · exact ensures_pure trivial
  · exact ensures_pure hv
  · exact ensures_pure hv
  · exact ensures_pure hu
  · exact ensures_pure hu
  · exact ensures_then fun _ => ensures_then fun _ => ensures_fault _
  · exact obeys_addTime closed _ _ ⟨hv, hu⟩

/-! ### All values -/

theorem obeys_once (a : Action) {v : Value} {args : List Value} (hv : v.Obeys L) (hargs : ∀ v ∈ args, v.Obeys L) :
    (a.once w v args).Ensures (Value.Obeys L) := by
  unfold once
  split
  · exact obeys_onAny a args hv
  · split
    · exact obeys_onDate closed _ _ _
    · exact obeys_onTime _ _ _
    · exact obeys_onDateTime _ _ _
    · exact obeys_onZone closed hv a hargs
    · exact obeys_onRegionOffset closed _ _ _
    · exact obeys_onZonedDate closed hv a hargs
    · exact obeys_onMoment closed hv a hargs
    · rename_i v
      exact obeys_onSingle closed (v := v) hv a args
    · exact obeys_onAmbiguous closed hv.1 hv.2 a args
    · split
      · exact ensures_pure trivial
      · exact ensures_fault _
    · split
      · exact ensures_pure trivial
      · exact ensures_pure trivial
      · exact ensures_fault _
    · exact ensures_fault _

/-- What an action makes of values that obey the law obeys it. -/
theorem obeys_perform (a : Action) {v : Value} {args : List Value} (hv : v.Obeys L)
    (hargs : ∀ v ∈ args, v.Obeys L) : (a.perform w v args).Ensures (Value.Obeys L) := by
  fun_induction a.perform w v args with
  | case1 a v ih => exact ensures_bind (ih hv) fun _ allowed => ensures_pure allowed
  | case2 a v u ihV ihU =>
    exact ensures_bind (ihV hv.1) fun _ first => ensures_bind (ihU hv.2) fun _ second => ensures_pure ⟨first, second⟩
  | case3 => exact ensures_fault _
  | case4 => exact obeys_once closed _ hv hargs

end Closed

end Action

/-! ## Sessions -/

namespace Session

def Obeys (L : Law) (s : Session) : Prop := ∀ v, some v ∈ s.results → v.Obeys L

variable {L : Law} {s : Session}

theorem obeys_result? (obeys : s.Obeys L) {i : Nat} {v : Value} (h : s.result? i = some v) : v.Obeys L :=
  obeys v (List.mem_of_getElem? (Option.join_eq_some_iff.mp h))

/-- What a step is handed obeys the law, if the literals do that stand in it. -/
theorem obeys_arguments? (obeys : s.Obeys L) {takes : Bool} {args : List Argument}
    (literals : ∀ v, .literal v ∈ args → v.Obeys L) {vs : List Value} (h : s.arguments? takes args = some vs) :
    ∀ v ∈ vs, v.Obeys L := by
  simp only [arguments?, Option.bind_eq_bind, Option.bind_eq_some_iff] at h
  obtain ⟨us, hus, h⟩ := h
  split at h
  · cases h
  · cases h
    intro v hv
    obtain ⟨a, ha, found⟩ := mem_of_mapM hus hv
    cases a with
    | literal u =>
      cases found
      exact literals _ ha
    | result i => exact obeys_result? obeys found

theorem obeys_receiver? (obeys : s.Obeys L) {i : Nat} {a : Action} {v : Value} (h : s.receiver? i a = some v) :
    v.Obeys L := by
  simp only [receiver?, Option.bind_eq_bind, Option.bind_eq_some_iff] at h
  obtain ⟨u, hu, h⟩ := h
  split at h
  · cases h
  · cases h
    exact obeys_result? obeys hu

/-- The value that an operation ends with, if it ends with one, obeys the law. -/
theorem obeys_reply {t : Traced Value} (h : t.Ensures (Value.Obeys L)) {v : Value} (hv : (reply t).outcome = .done v) :
    v.Obeys L := by
  unfold reply at hv
  split at hv
  · cases hv
    exact h _ ‹_›
  · cases hv

/-- A change of the surroundings has no value, or makes the zone outside the library. -/
theorem obeys_change? {w w' : World} {m : Maker} {args : List Value} {v : Value}
    (custom : m = .customZone → L.zone .custom) (h : change? w m args = some (w', v)) : v.Obeys L := by
  unfold change? at h
  split at h
  · cases h; trivial
  · cases h; exact custom rfl
  · cases h

/-- The value that a step ends with obeys the law, if its literals do and it may make the zones that it makes. -/
theorem obeys_answer (closed : L.Closed s.world) (obeys : s.Obeys L) {step : Step}
    (literals : ∀ v, .literal v ∈ step.args → v.Obeys L)
    (system : ∀ m, step.call = .make m → m.UsesSystem → L.zone .system)
    (custom : step.call = .make .customZone → L.zone .custom) {v : Value}
    (hv : (s.answer step).2.outcome = .done v) : v.Obeys L := by
  obtain ⟨call, args⟩ := step
  cases call with
  | make m =>
    simp only [answer] at hv
    split at hv
    · cases hv
    · rename_i vs hvs
      split at hv
      · rename_i changed
        cases hv
        exact obeys_change? (fun h => custom (congrArg Call.make h)) changed
      · exact obeys_reply (Maker.obeys_make closed m (system m rfl) (obeys_arguments? obeys literals hvs)) hv
  | act i a =>
    simp only [answer] at hv
    split at hv
    · rename_i u vs hu hvs
      exact obeys_reply (Action.obeys_perform closed a (obeys_receiver? obeys hu) (obeys_arguments? obeys literals hvs)) hv
    · cases hv

/-- A step keeps the session to the law if what it answers does. -/
theorem obeys_perform (obeys : s.Obeys L) {step : Step}
    (answers : ∀ v, (s.answer step).2.outcome = .done v → v.Obeys L) : (s.perform step).1.Obeys L := by
  intro v hv
  rcases List.mem_append.mp hv with hv | hv
  · exact obeys v hv
  · have left : (s.answer step).2.outcome.value? = some v := (List.mem_singleton.mp hv).symm
    cases h : (s.answer step).2.outcome with
    | done u =>
      rw [h] at left
      cases left
      exact answers _ h
    | fault f =>
      rw [h] at left
      cases f with
      | failure f => cases left; trivial
      | _ => cases left
    | skipped => rw [h] at left; cases left

/-! ### All steps -/

/-- A step may change the zones of the surroundings, but not the regions that are known. -/
theorem regions_answer (step : Step) : (s.answer step).1.regions = s.world.regions := by
  obtain ⟨call, args⟩ := step
  cases call with
  | make m =>
    simp only [answer]
    split
    · rfl
    · split
      · rename_i changed
        unfold change? at changed
        split at changed <;> cases changed <;> rfl
      · rfl
  | act i a =>
    simp only [answer]
    split <;> rfl

/-- If a law is closed wherever these regions are known, and has the zones that the surroundings may change, all
values obey it that the steps of a program end with. -/
theorem obeys_replies {regions : List (String × RegionData)} (closed : ∀ w : World, w.regions = regions → L.Closed w)
    (system : L.zone .system) (custom : L.zone .custom) (known : s.world.regions = regions) (obeys : s.Obeys L)
    {steps : List Step} (literals : ∀ step ∈ steps, ∀ v, .literal v ∈ step.args → v.Obeys L) :
    ∀ r ∈ s.replies steps, ∀ v, r.outcome = .done v → v.Obeys L := by
  induction steps generalizing s with
  | nil => intro r hr; cases hr
  | cons step steps ih =>
    have answers (v : Value) (hv : (s.answer step).2.outcome = .done v) : v.Obeys L :=
      obeys_answer (closed s.world known) obeys (literals step List.mem_cons_self) (fun _ _ _ => system)
        (fun _ => custom) hv
    intro r hr v hv
    rcases List.mem_cons.mp hr with rfl | hr
    · exact answers v hv
    · have stillKnown : (s.perform step).1.world.regions = regions := (regions_answer step).trans known
      have rest (step : Step) (h : step ∈ steps) := literals step (List.mem_cons_of_mem _ h)
      exact ih stillKnown (obeys_perform obeys answers) rest r hr v hv

end Session

end CivilTime
