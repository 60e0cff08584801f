/-
  CivilTime.Proofs.System.Constant — a system's clock that always stands at the same offset.

  The search for an instant has nothing to find on such a clock: its first guess is right. Before it
  says so it looks a day aside all the same, back for the first fold and forward for the second, and a
  look that leaves the calendar ends it (`instantOf_of_constant`). So a reading resolves just when the
  calendar goes on for a day to both sides of it (`candidates_of_constant`).

  A fixed offset only has to reach the moment itself. Main statement: the two act alike on the
  readings with a day around them, and on those that neither of them can place (`actsFixed_iff`). On the
  others, at the ends of the calendar, the system refuses what the fixed offset makes
  (`not_actsFixed_lastDay`).
-/

import CivilTime.Program
import CivilTime.Proofs.Earliest

namespace CivilTime

open CivilDateTime (InCalendar)

/-- The calendar goes on for a day before the reading and for a day after it. -/
def CivilDateTime.HasDayAround (x : CivilDateTime) : Prop :=
  InCalendar (x.timestamp - 86400) ∧ InCalendar (x.timestamp + 86400)

instance (x : CivilDateTime) : Decidable x.HasDayAround := inferInstanceAs (Decidable (_ ∧ _))

/-! ## The search -/

namespace System

section Constant

variable {r : ZoneRule} {o : Offset} (constant : ∀ u, offsetAt r u = o.seconds)

include constant

/-- The search answers its first guess, if it can look at the reading shown there and a day aside. -/
theorem instantOf_of_constant {f : Fold} {t u : Int} (inside : InCalendar t) :
    instantOf r f t = some u ↔ InCalendar (t + o.seconds) ∧ InCalendar (aside f t) ∧ u = t - o.seconds := by
  have look {v w : Int} : shownAt r v = some w ↔ InCalendar w ∧ v + o.seconds = w := by
    rw [shownAt_eq_some, constant]
  have back (u : Int) : u + o.seconds - u = o.seconds := by omega
  have shown : aside f (t - o.seconds) + o.seconds = aside f t := by
    cases f <;> simp only [aside] <;> omega
  constructor
  · intro h
    -- the first guess is shown as `t`, so only the looks at `t` and aside can fail
    have found := instantOf_eq_search h
    simp only [instantOf, Option.bind_eq_bind, Option.bind_eq_some_iff, look] at h
    obtain ⟨w, ⟨first, rfl⟩, t₁, ⟨-, rfl⟩, h⟩ := h
    rw [back, if_pos (by omega)] at h
    obtain ⟨b, hb, -⟩ := Option.bind_eq_some_iff.mp h
    obtain ⟨second, rfl⟩ := look.mp hb
    change InCalendar (aside f (t - o.seconds) + o.seconds) at second
    rw [shown] at second
    refine ⟨first, second, ?_⟩
    rw [found]
    simp [search, constant]
  · rintro ⟨first, second, rfl⟩
    rw [← shown] at second
    have again : t - o.seconds + o.seconds = t := by omega
    simp only [instantOf, Option.bind_eq_bind]
    rw [look.mpr ⟨first, rfl⟩, Option.bind_some, back, look.mpr ⟨inside, again⟩, Option.bind_some, if_pos rfl]
    change ((shownAt r (aside f (t - o.seconds))).bind fun s => if o.seconds = s - aside f (t - o.seconds) then _
      else _) = _
    rw [look.mpr ⟨second, rfl⟩, Option.bind_some, if_pos (back _).symm]
    rfl

theorem utcOf_of_constant {f : Fold} {t u : Int} (inside : InCalendar t) : utcOf r f t = some u ↔
    InCalendar (t + o.seconds) ∧ InCalendar (aside f t) ∧ InCalendar (t - o.seconds) ∧ u = t - o.seconds := by
  have below := o.neg_day_lt; have below' := o.lt_day
  simp only [utcOf_eq_some, instantOf_of_constant constant inside, constant]
  constructor
  · rintro ⟨moment, v, ⟨first, second, -⟩, -, rfl⟩
    exact ⟨first, second, moment, rfl⟩
  · rintro ⟨first, second, moment, rfl⟩
    exact ⟨moment, _, ⟨first, second, rfl⟩, by omega, rfl⟩

/-- A reading has the one offset for its candidate, if the calendar goes on around it, and else none. -/
theorem candidates_of_constant (x : CivilDateTime) : (candidates r x).result =
    if x.HasDayAround then .ok (.single o) else .error (.failure .invalidDateTime) := by
  have below := o.neg_day_lt; have below' := o.lt_day
  have inside := x.inCalendar_timestamp
  split
  · rename_i around
    obtain ⟨before, after⟩ := around
    have taken (f : Fold) : utcOf r f x.timestamp = some (x.timestamp - o.seconds) := by
      refine (utcOf_of_constant constant inside).mpr ⟨?_, ?_, ?_, rfl⟩
      · unfold InCalendar at *; omega
      · cases f
        · exact before
        · exact after
      · unfold InCalendar at *; omega
    have back : x.timestamp - o.seconds + o.seconds = x.timestamp := by omega
    have offset : offset? r (x.timestamp - o.seconds) = some o :=
      offset?_eq_some.mpr ⟨(constant _).symm, back.symm ▸ inside⟩
    exact candidates_eq_ok.mpr ⟨_, o, _, o, taken .first, offset, back, taken .second, offset, (if_pos rfl).symm⟩
  · rename_i lonely
    cases h : (candidates r x).result with
    | error f => rw [failsAsInvalid_candidates r x f h]
    | ok res =>
      obtain ⟨early, p, late, q, he, -, -, hl, -, -⟩ := candidates_eq_ok.mp h
      obtain ⟨-, before, -⟩ := (utcOf_of_constant constant inside).mp he
      obtain ⟨-, after, -⟩ := (utcOf_of_constant constant inside).mp hl
      exact absurd ⟨before, after⟩ lonely

end Constant

end System

/-! ## Beside a fixed offset -/

/-- The system's zone acts on a reading as a fixed offset does: both make the same moment, which is the only
one that the system finds, or both find that it does not exist. -/
inductive ActsFixed (w : World) (o : Offset) (x : CivilDateTime) : Prop
  | made (m : ZonedDateTime) : (Zone.system.momentOfLocal w x).result = .ok m →
      ((Zone.fixed o).momentOfLocal w x).result = .ok m.withFixedOffset →
      (Zone.system.resolve w x).result = .ok (.single m) → ActsFixed w o x
  | refused : (Zone.system.momentOfLocal w x).result = .error (.failure .invalidDateTime) →
      ((Zone.fixed o).momentOfLocal w x).result = .error (.failure .invalidDateTime) → ActsFixed w o x

namespace Zone

variable {w : World} {o : Offset} {x : CivilDateTime}

theorem momentOfLocal_fixed (w : World) (o : Offset) (x : CivilDateTime) :
    ((fixed o).momentOfLocal w x).result = (momentIn x (.fixed o)).result := by
  have only : ((fixed o).candidates w x).result = .ok (.single (.fixed o)) := rfl
  rw [momentOfLocal_of_candidates only]
  rfl

/-- Where the system's only candidate makes a moment, a fixed offset makes the same. -/
theorem fixed_of_momentIn {m : ZonedDateTime} (h : (momentIn x (.system o)).result = .ok m) :
    ((fixed o).momentOfLocal w x).result = .ok m.withFixedOffset := by
  obtain ⟨state, reads⟩ := momentIn_eq_ok.mp h
  rw [momentOfLocal_fixed, momentIn_eq_ok]
  refine ⟨?_, reads.seconds, reads.nanosecond⟩
  rw [ZonedDateTime.withFixedOffset, state]
  rfl

section Constant

variable (constant : ∀ u, System.offsetAt w.system u = o.seconds)

include constant

theorem made_of_hasDayAround (around : x.HasDayAround) :
    ∃ m, (system.momentOfLocal w x).result = .ok m ∧
      ((fixed o).momentOfLocal w x).result = .ok m.withFixedOffset ∧
      (system.resolve w x).result = .ok (.single m) := by
  have only : (system.candidates w x).result = .ok (.single (.system o)) := by
    refine Traced.result_bind_of_ok (a := Resolution.single o) ?_
    rw [System.candidates_of_constant constant, if_pos around]
  have below := o.neg_day_lt; have below' := o.lt_day
  obtain ⟨before, after⟩ := around
  have inside : InCalendar (x.timestamp - o.seconds) := by unfold InCalendar at *; omega
  obtain ⟨m, hm⟩ := exists_momentIn (x := x) (s := .system o) inside
  exact ⟨m, (momentOfLocal_of_candidates only).trans hm, fixed_of_momentIn hm, resolve_of_single only hm⟩

theorem refused_of_not_hasDayAround (lonely : ¬ x.HasDayAround) :
    (system.momentOfLocal w x).result = .error (.failure .invalidDateTime) ∧
      (system.resolve w x).result = .error (.failure .invalidDateTime) := by
  have none : (system.candidates w x).result = .error (.failure .invalidDateTime) := by
    refine Traced.result_bind_of_error ?_
    rw [System.candidates_of_constant constant, if_neg lonely]
  exact ⟨momentOfLocal_of_error none, resolve_of_error none⟩

end Constant

end Zone

/-- A system's clock that always stands at the same offset acts as this offset does on the readings with a day
of the calendar around them, for which both make a moment, and on those whose moment is not in the
calendar. All readings without a day around them it refuses. -/
theorem actsFixed_iff (w : World) (o : Offset) (constant : ∀ u, System.offsetAt w.system u = o.seconds)
    (x : CivilDateTime) :
    (ActsFixed w o x ↔ x.HasDayAround ∨ ¬ InCalendar (x.timestamp - o.seconds)) ∧
      (x.HasDayAround → ∃ m, (Zone.system.momentOfLocal w x).result = .ok m ∧
        ((Zone.fixed o).momentOfLocal w x).result = .ok m.withFixedOffset ∧
        (Zone.system.resolve w x).result = .ok (.single m)) ∧
      (¬ x.HasDayAround → (Zone.system.momentOfLocal w x).result = .error (.failure .invalidDateTime) ∧
        (Zone.system.resolve w x).result = .error (.failure .invalidDateTime)) := by
  have made := Zone.made_of_hasDayAround (x := x) constant
  have refused := Zone.refused_of_not_hasDayAround (x := x) constant
  refine ⟨⟨fun acts => ?_, fun h => ?_⟩, made, refused⟩
  · by_cases around : x.HasDayAround
    · exact .inl around
    · right
      -- the system refuses the reading, and a fixed offset has a moment for it
      intro inside
      obtain ⟨m, hm⟩ := Zone.exists_momentIn (x := x) (s := .fixed o) inside
      rw [← Zone.momentOfLocal_fixed w] at hm
      cases acts with
      | made m' system _ _ => cases system.symm.trans (refused around).1
      | refused _ fixed => cases fixed.symm.trans hm
  · rcases h with around | outside
    · obtain ⟨m, system, fixed, only⟩ := made around
      exact .made m system fixed only
    · have lonely : ¬ x.HasDayAround := by
        have below := o.neg_day_lt; have below' := o.lt_day
        rintro ⟨before, after⟩
        exact outside (by unfold InCalendar at *; omega)
      refine .refused (refused lonely).1 ?_
      rw [Zone.momentOfLocal_fixed]
      exact Zone.momentIn_of_outside outside

def fiveBehind : Offset := ⟨-18000, by decide, by decide⟩

theorem actsFixed_fiveBehind :
    (∀ u, System.offsetAt (World.start "EST5" []).system u = fiveBehind.seconds) ∧
      ∀ x : CivilDateTime,
        (ActsFixed (World.start "EST5" []) fiveBehind x ↔
          x.HasDayAround ∨ ¬ InCalendar (x.timestamp - fiveBehind.seconds)) ∧
        (x.HasDayAround → ∃ m, (Zone.system.momentOfLocal (World.start "EST5" []) x).result = .ok m ∧
          ((Zone.fixed fiveBehind).momentOfLocal (World.start "EST5" []) x).result = .ok m.withFixedOffset ∧
          (Zone.system.resolve (World.start "EST5" []) x).result = .ok (.single m)) ∧
        (¬ x.HasDayAround →
          (Zone.system.momentOfLocal (World.start "EST5" []) x).result = .error (.failure .invalidDateTime) ∧
          (Zone.system.resolve (World.start "EST5" []) x).result = .error (.failure .invalidDateTime)) := by
  have constant (u : Int) : System.offsetAt (World.start "EST5" []).system u = fiveBehind.seconds := rfl
  exact ⟨constant, actsFixed_iff (World.start "EST5" []) fiveBehind constant⟩

/-- Under a system's zone that is UTC by another name, the midnight with which the last day begins is refused,
though it is a moment of UTC. -/
theorem not_actsFixed_lastDay :
    (∀ u, System.offsetAt (World.start "UTC0" []).system u = Offset.zero.seconds) ∧
      (Zone.system.momentOfLocal (World.start "UTC0" []) (.startOf lastDay)).result = .error (.failure .invalidDateTime) ∧
      ((Zone.fixed .zero).momentOfLocal (World.start "UTC0" []) (.startOf lastDay)).result =
        .ok ⟨.startOf lastDay, .fixed .zero⟩ ∧
      ¬ ActsFixed (World.start "UTC0" []) .zero (.startOf lastDay) := by
  have rule : (World.start "UTC0" []).system = .fixed "UTC" 0 := by decide
  have constant (u : Int) : System.offsetAt (World.start "UTC0" []).system u = Offset.zero.seconds := by
    rw [rule]
    rfl
  have system := (Zone.refused_of_not_hasDayAround (x := .startOf lastDay) constant (by decide)).1
  have fixed : ((Zone.fixed .zero).momentOfLocal (World.start "UTC0" []) (.startOf lastDay)).result =
      .ok ⟨.startOf lastDay, .fixed .zero⟩ := by
    rw [Zone.momentOfLocal_fixed, Zone.momentIn_eq_ok]
    exact ⟨rfl, Int.add_zero _, rfl⟩
  refine ⟨constant, system, fixed, fun acts => ?_⟩
  cases acts with
  | made m made _ _ => cases made.symm.trans system
  | refused _ refused => cases refused.symm.trans fixed

end CivilTime
