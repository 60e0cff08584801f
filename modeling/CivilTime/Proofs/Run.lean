/-
  CivilTime.Proofs.Run — every moment of every run is one that its zone would make again.

  A session is sound if all that its steps have left behind is (`Session.Sound`). A step that is
  handed plain literals, makes no zone outside the library and leaves the system's zone alone keeps a
  session sound (`sound_step`), so all steps of a program of such steps do (`sound_run`). Main
  statement: whatever such a program answers, the moments in it are coherent (`coherent_run`).
-/

import CivilTime.Proofs.Region.Listed
import CivilTime.Proofs.Sound

namespace CivilTime

def Value.IsLiteral : Value → Prop
  | null | flag _ | int _ | text _ => True
  | _ => False

/-- The step is handed literals and results only, and makes no zone outside the library. -/
structure Step.Proper (step : Step) : Prop where
  literals : ∀ v, Argument.literal v ∈ step.args → v.IsLiteral
  inside : step.call ≠ .make .customZone

namespace Session

def KeepsSystem (s : Session) : List Step → Prop
  | [] => True
  | step :: steps => (s.perform step).1.world.system = s.world.system ∧ (s.perform step).1.KeepsSystem steps

/-- The surroundings are still the same, and all values that were left behind are sound. -/
structure Sound (w : World) (s : Session) : Prop where
  world : s.world = w
  results : ∀ v, some v ∈ s.results → v.Sound w

variable {w : World} {s : Session}

/-! ## Steps -/

theorem sound_literal {v : Value} (h : v.IsLiteral) : v.Sound w := by
  cases v <;> first | exact trivial | exact h.elim

/-- Of the surroundings only the system's zone is ever changed, and such a change has no value. -/
theorem change?_eq_some {w₀ w' : World} {m : Maker} {args : List Value} {v : Value}
    (h : change? w₀ m args = some (w', v)) (inside : m ≠ .customZone) :
    v = .null ∧ w' = { w₀ with system := w'.system } := by
  unfold change? at h
  split at h
  · cases h; exact ⟨rfl, rfl⟩
  · exact absurd rfl inside
  · cases h

/-- A proper step answers sound values. -/
theorem sound_answer (sound : s.Sound w) {step : Step} (proper : step.Proper)
    {v : Value} (hv : (s.answer step).2.outcome = .done v) : v.Sound w := by
  have closed : (soundLaw w).Closed s.world := sound.world ▸ closed_soundLaw w
  exact obeys_answer closed sound.results (fun v hv => sound_literal (proper.literals v hv)) (fun _ _ _ => trivial)
    (fun makes => absurd makes proper.inside) hv

theorem world_answer {step : Step} (proper : step.Proper) :
    (s.answer step).1 = { s.world with system := (s.answer step).1.system } := by
  obtain ⟨call, args⟩ := step
  cases call with
  | make m =>
    simp only [answer]
    split
    · rfl
    · split
      · rename_i changed hchange
        exact (change?_eq_some hchange fun h => proper.inside (congrArg Call.make h)).2
      · rfl
  | act i a =>
    simp only [answer]
    split <;> rfl

/-- A proper step that keeps the system's zone keeps a session sound. -/
theorem sound_step (sound : s.Sound w) {step : Step} (proper : step.Proper)
    (keeps : (s.perform step).1.world.system = s.world.system) : (s.perform step).1.Sound w where
  world := by
    have same := world_answer (s := s) proper
    change (s.answer step).1.system = _ at keeps
    rw [keeps] at same
    exact same.trans sound.world
  results := obeys_perform sound.results fun _ hv => sound_answer sound proper hv

/-! ## Runs -/

/-- A program of such steps answers sound values from first to last. -/
theorem sound_run {steps : List Step} (sound : s.Sound w) (proper : ∀ step ∈ steps, step.Proper)
    (keeps : s.KeepsSystem steps) : ∀ r ∈ s.replies steps, ∀ v, r.outcome = .done v → v.Sound w := by
  induction steps generalizing s with
  | nil => intro r hr; cases hr
  | cons step steps ih =>
    have first := proper step List.mem_cons_self
    intro r hr v hv
    rcases List.mem_cons.mp hr with rfl | hr
    · exact sound_answer sound first hv
    · exact ih (sound_step sound first keeps.1) (fun step h => proper step (List.mem_cons_of_mem _ h)) keeps.2 r hr v hv

end Session

/-- In a run that keeps the system's zone and knows no zone outside the library, every moment of every
answer is coherent; one of a region, if the records of the region are regular. -/
theorem coherent_run (w : World) (steps : List Step) (proper : ∀ step ∈ steps, step.Proper)
    (keeps : (Session.mk w []).KeepsSystem steps) :
    ∀ r ∈ run w steps, ∀ v, r.outcome = .done v → ∀ m ∈ v.moments, m.state.Covered w → m.Coherent w := by
  have start : (Session.mk w []).Sound w := ⟨rfl, fun v hv => by cases hv⟩
  intro r hr v hv m hm covered
  have sound := Session.sound_run start proper keeps r hr v hv
  exact (Value.sound_of_mem_moments sound m hm).coherent covered

def irishWorld : World := ⟨irishRule, [("Europe/Dublin", ireland.data)], .constant none none none none⟩

/-- Asks what 2024-10-27 01:30:00 was in Ireland, and for the later answer. -/
def irishNight : List Step :=
  [⟨.make .region, [.literal (.text "Europe/Dublin")]⟩,
    ⟨.make .dateTime, [.literal (.int 2024), .literal (.int 10), .literal (.int 27), .literal (.int 1),
      .literal (.int 30)]⟩,
    ⟨.act 0 .resolve, [.result 1]⟩,
    ⟨.act 2 .latest, []⟩]

/-- The later answer: half past one in winter. -/
def irishLater : ZonedDateTime := ⟨irishAutumn, .region ⟨.zero, "Europe/Dublin", some "GMT"⟩⟩

theorem coherent_irishNight :
    (∀ step ∈ irishNight, step.Proper) ∧ (Session.mk irishWorld []).KeepsSystem irishNight ∧
      irishLater.state.Covered irishWorld ∧
      (∃ r ∈ run irishWorld irishNight, r.outcome = .done (.moment irishLater)) ∧
      irishLater.Coherent irishWorld := by
  have proper : ∀ step ∈ irishNight, step.Proper := by
    intro step hs
    simp only [irishNight, List.mem_cons, List.not_mem_nil, or_false] at hs
    rcases hs with rfl | rfl | rfl | rfl <;> exact ⟨by simp [Value.IsLiteral], by simp⟩
  have keeps : (Session.mk irishWorld []).KeepsSystem irishNight := ⟨rfl, rfl, rfl, rfl, trivial⟩
  have covered : irishLater.state.Covered irishWorld := by
    intro r hr
    have found : irishWorld.region "Europe/Dublin" = .ok ireland := rfl
    cases found.symm.trans hr
    exact .inr ⟨rfl, isRegular_irishRule⟩
  obtain ⟨r, hr, answer⟩ : ∃ r ∈ run irishWorld irishNight, r.outcome = .done (.moment irishLater) :=
    ⟨_, List.mem_of_getElem? (i := 3) rfl, rfl⟩
  refine ⟨proper, keeps, covered, ⟨r, hr, answer⟩, ?_⟩
  exact coherent_run irishWorld irishNight proper keeps r hr _ answer irishLater List.mem_cons_self covered

end CivilTime
