/-
  CivilTime.Proofs.TwoRuns — two runs of a program under different rules of the system's zone.

  A step is portable if it is handed nothing of the system's zone and makes nothing of it; it may set
  the rule. Then whatever the rule is and is set to, a session whose values are portable goes on alike
  and keeps them so (`perform_under`, `portable_step`). Main statement: two runs of a program of portable
  steps have the same replies, provided that the system's zone goes by the same names in both whenever
  a text is read whose format asks for one (`run_under`). Without this proviso they need not have
  (`not_run_under_readCet`): in every zone it is the system's zone that says by which names texts may
  call a zone.
-/

import CivilTime.Proofs.Portable
import Mathlib.Data.List.Forall2

namespace CivilTime

/-! ## Steps and sessions -/

/-- The step is handed nothing of the system's zone, and makes nothing of it. -/
structure Step.Portable (step : Step) : Prop where
  literals : ∀ v, .literal v ∈ step.args → v.Obeys portable
  elsewhere : ∀ m, step.call = .make m → ¬ m.UsesSystem

/-- The same portable step, or two that set the rule of the system's zone. -/
inductive Step.Twin : Step → Step → Prop
  | same {step : Step} (h : step.Portable) : Twin step step
  | setSystem (s s' : String) :
      Twin ⟨.make .setSystemZone, [.literal (.text s)]⟩ ⟨.make .setSystemZone, [.literal (.text s')]⟩

theorem Step.Twin.portable {step step' : Step} (twin : step.Twin step') : step.Portable := by
  cases twin with
  | same h => exact h
  | setSystem s s' => exact ⟨by simp [Value.Obeys], fun m h => by cases h; exact id⟩

namespace Session

def under (s : Session) (r : ZoneRule) : Session := ⟨s.world.under r, s.results⟩

def AsksZoneName (s : Session) (step : Step) : Prop :=
  ∃ i a args, step.call = .act i a ∧ s.arguments? a.TakesFailures step.args = some args ∧ a.AsksZoneName args

/-- Whenever a step of the first run asks for the name of a zone, the system's zone goes by the same names
in both runs. -/
def NamesAgree : Session → Session → List Step → List Step → Prop
  | s, s', step :: steps, step' :: steps' =>
    (s.AsksZoneName step → System.zoneNames s.world.system = System.zoneNames s'.world.system) ∧
      NamesAgree (s.perform step).1 (s'.perform step').1 steps steps'
  | _, _, _, _ => True

variable {s : Session} {r : ZoneRule} {step step' : Step}

/-! ## Single steps -/

/-- A maker changes the surroundings under both rules or under neither, and what it leaves behind differs in
the rule only. -/
theorem change?_under (w : World) (r : ZoneRule) (m : Maker) (args : List Value) :
    (change? (w.under r) m args = none ∧ change? w m args = none) ∨
      ∃ w' v r', change? (w.under r) m args = some (w'.under r', v) ∧ change? w m args = some (w', v) := by
  unfold change?
  split
  · rename_i t
    let rule := (ZoneRule.ofText? t).getD (.fixed "UTC" 0)
    exact .inr ⟨w.under rule, .null, rule, rfl, rfl⟩
  · exact .inr ⟨_, _, r, rfl, rfl⟩
  · exact .inl ⟨rfl, rfl⟩

theorem answer_under (obeys : s.Obeys portable) (h : step.Portable)
    (names : s.AsksZoneName step → System.zoneNames s.world.system = System.zoneNames r) :
    ∃ r', (s.under r).answer step = ((s.answer step).1.under r', (s.answer step).2) := by
  obtain ⟨call, args⟩ := step
  have arguments (takes : Bool) : (s.under r).arguments? takes args = s.arguments? takes args := rfl
  cases call with
  | make m =>
    simp only [answer, arguments]
    cases found : s.arguments? m.TakesFailures args with
    | none => exact ⟨r, rfl⟩
    | some vs =>
      dsimp only [under]
      -- the maker changes the surroundings in both runs or in none
      rcases change?_under s.world r m vs with ⟨h', h''⟩ | ⟨w', v, r', h', h''⟩
      · rw [h', h'', Maker.make_under (h.elsewhere m rfl)]
        exact ⟨r, rfl⟩
      · rw [h', h'']
        exact ⟨r', rfl⟩
  | act i a =>
    have receiver : (s.under r).receiver? i a = s.receiver? i a := rfl
    simp only [answer, arguments, receiver]
    cases receives : s.receiver? i a with
    | none => exact ⟨r, rfl⟩
    | some v =>
      cases found : s.arguments? a.TakesFailures args with
      | none => exact ⟨r, rfl⟩
      | some vs =>
        have hv := obeys_receiver? obeys receives
        have hvs := obeys_arguments? obeys h.literals found
        dsimp only [under]
        rw [Action.perform_under a hv hvs fun asks => names ⟨i, a, vs, rfl, found, asks⟩]
        exact ⟨r, rfl⟩

/-- A step that sets the rule answers with nothing, however it sets it. -/
theorem answer_setSystem (s : Session) (t : String) :
    ∃ r, s.answer ⟨.make .setSystemZone, [.literal (.text t)]⟩ = (s.world.under r, ⟨.done .null, []⟩) :=
  ⟨_, rfl⟩

/-- Twin steps have the same reply, and leave behind sessions that differ in the rule only. -/
theorem perform_under (obeys : s.Obeys portable) (twin : step.Twin step')
    (names : s.AsksZoneName step → System.zoneNames s.world.system = System.zoneNames r) :
    ∃ r', (s.under r).perform step' = ((s.perform step).1.under r', (s.perform step).2) := by
  cases twin with
  | same h =>
    obtain ⟨r', same⟩ := answer_under obeys h names
    refine ⟨r', ?_⟩
    simp only [perform, same]
    rfl
  | setSystem t t' =>
    obtain ⟨r', h⟩ := answer_setSystem s t
    obtain ⟨r'', h'⟩ := answer_setSystem (s.under r) t'
    refine ⟨r'', ?_⟩
    simp only [perform, h, h']
    rfl

/-- A portable step keeps the session's values portable. -/
theorem portable_step (obeys : s.Obeys portable) (h : step.Portable) : (s.perform step).1.Obeys portable := by
  refine obeys_perform obeys fun v hv => ?_
  have system (m : Maker) (makes : step.call = .make m) (uses : m.UsesSystem) : portable.zone .system :=
    absurd uses (h.elsewhere m makes)
  exact obeys_answer (closed_portable s.world) obeys h.literals system (fun _ => trivial) hv

/-! ## Runs -/

/-- Twin programs have the same replies. -/
theorem replies_under (obeys : s.Obeys portable) {steps steps' : List Step} (twins : List.Forall₂ Step.Twin steps steps')
    (names : s.NamesAgree (s.under r) steps steps') : (s.under r).replies steps' = s.replies steps := by
  -- a step may set the rule, so the rest of the programs runs under another one
  induction twins generalizing s r with
  | nil => rfl
  | cons twin _ ih =>
    obtain ⟨r', same⟩ := perform_under (r := r) obeys twin names.1
    have rest := names.2
    rw [same] at rest
    simp only [replies, same]
    rw [ih (portable_step obeys twin.portable) rest]

end Session

/-- Two runs of a program in which nothing of the system's zone occurs have the same replies, whatever the
rule of that zone is at first and wherever it is set to something else, if only the system's zone goes
by the same names in both whenever a text is read whose format asks for the name of a zone. -/
theorem run_under (w : World) (r : ZoneRule) (steps steps' : List Step) (twins : List.Forall₂ Step.Twin steps steps')
    (names : (Session.mk w []).NamesAgree (Session.mk (w.under r) []) steps steps') :
    run (w.under r) steps' = run w steps := by
  have obeys : (Session.mk w []).Obeys portable := fun v hv => by cases hv
  exact Session.replies_under obeys twins names

/-! ## A name that is known in one run only -/

/-- Sets the rule of the system's zone, and reads a text in UTC that is the name of a zone and nothing else. -/
def readCet (rule : String) : List Step :=
  [⟨.make .utc, []⟩, ⟨.make .setSystemZone, [.literal (.text rule)]⟩,
    ⟨.act 0 .momentOfText, [.literal (.text "CET"), .literal (.text "%Z")]⟩]

theorem twins_readCet (rule rule' : String) : List.Forall₂ Step.Twin (readCet rule) (readCet rule') := by
  have first : Step.Portable ⟨.make .utc, []⟩ := ⟨by simp, fun m h => by cases h; exact id⟩
  have last : Step.Portable ⟨.act 0 .momentOfText, [.literal (.text "CET"), .literal (.text "%Z")]⟩ :=
    ⟨by simp [Value.Obeys], fun m h => by cases h⟩
  exact .cons (.same first) (.cons (.setSystem rule rule') (.cons (.same last) .nil))

/-- Central European Time, and a clock of the same name that is another hour ahead. -/
theorem run_under_readCet :
    List.Forall₂ Step.Twin (readCet "CET-1") (readCet "CET-2") ∧
      (Session.mk (World.start "UTC0" []) []).NamesAgree
        (Session.mk ((World.start "UTC0" []).under (.fixed "EST" (-18000))) []) (readCet "CET-1") (readCet "CET-2") ∧
      run ((World.start "UTC0" []).under (.fixed "EST" (-18000))) (readCet "CET-2") =
        run (World.start "UTC0" []) (readCet "CET-1") := by
  have twins := twins_readCet "CET-1" "CET-2"
  have names : (Session.mk (World.start "UTC0" []) []).NamesAgree
      (Session.mk ((World.start "UTC0" []).under (.fixed "EST" (-18000))) []) (readCet "CET-1") (readCet "CET-2") := by
    have first : System.zoneNames (World.start "CET-1" []).system = ⟨["utc", "gmt", "cet"]⟩ := rfl
    have second : System.zoneNames (World.start "CET-2" []).system = ⟨["utc", "gmt", "cet"]⟩ := rfl
    refine ⟨?_, ?_, fun _ => first.trans second.symm, trivial⟩
    · rintro ⟨i, a, args, call, -⟩
      cases call
    · rintro ⟨i, a, args, call, -⟩
      cases call
  exact ⟨twins, names, run_under (World.start "UTC0" []) (.fixed "EST" (-18000)) _ _ twins names⟩

/-- Names that are tried in the order in which they stand. -/
theorem Pattern.Shape.ofNames_of_sorted {names : List String} (sorted : names.Pairwise fun a b => b.length ≤ a.length) :
    ofNames names = names.map ofName := by
  rw [ofNames, List.mergeSort_of_pairwise]
  simpa using sorted

/-- A text in the format `%Z` has to be one of the names: the first that it starts with counts. -/
theorem Pattern.read_zoneName {zones : ZoneNames} (sorted : zones.known.Pairwise fun a b => b.length ≤ a.length)
    (text : String) :
    read zones text "%Z" =
      match (zones.known.map Shape.ofName).filterMap (Shape.split? · text.toList) with
      | [] => .error (.mismatch text "%Z")
      | (name, rest) :: _ =>
        if rest.isEmpty then do (← Fields.ofTexts [(.zoneName, name)]).resolve
        else .error (.unconverted (String.ofList rest)) := by
  have tokens : Token.ofFormat "%Z" = .ok [.field .zoneName] := rfl
  simp only [read, tokens, bind, Except.bind, Token.firstMatch, Token.splits, Directive.shapes,
    Shape.ofNames_of_sorted sorted]
  cases (zones.known.map Shape.ofName).filterMap (Shape.split? · text.toList) <;> rfl

/-- Once the system's zone goes by that name UTC understands it, and otherwise it does not. -/
theorem not_run_under_readCet :
    List.Forall₂ Step.Twin (readCet "CET-1") (readCet "UTC0") ∧
      run (World.start "UTC0" []) (readCet "CET-1") ≠ run (World.start "UTC0" []) (readCet "UTC0") := by
  refine ⟨twins_readCet "CET-1" "UTC0", fun same => ?_⟩
  let answer (w : World) : Reply := Session.reply (do return .moment (← Zone.utc.momentOfText w "CET" "%Z"))
  have known : (answer (World.start "CET-1" [])).outcome.value?.isSome = true := by
    dsimp only [answer]
    rw [Zone.momentOfText, Pattern.read_zoneName (by decide)]
    rfl
  have unknown : (answer (World.start "UTC0" [])).outcome.value?.isSome = false := by
    dsimp only [answer]
    rw [Zone.momentOfText, Pattern.read_zoneName (by decide)]
    rfl
  have replies (rule : String) : run (World.start "UTC0" []) (readCet rule) =
      [⟨.done (.zone .utc), []⟩, ⟨.done .null, []⟩, answer (World.start rule [])] := rfl
  rw [replies, replies] at same
  simp only [List.cons.injEq, true_and, and_true] at same
  rw [same, unknown] at known
  cases known

end CivilTime
