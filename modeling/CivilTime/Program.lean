/-
  CivilTime.Program — programs: operations one after another, each on values of earlier steps.

  A step that fails with a failure has that failure for its value; one that ends otherwise has no
  value, and a step that needs a missing value is skipped. Failures are handed on only to
  operations that are meant for them. Two makers change the surroundings of all later steps: one
  sets the rule of the system's zone, one the answers of the zone defined outside the library.
-/

import CivilTime.Program.Acting
import CivilTime.Rule.Reader

namespace CivilTime

inductive Argument where
  | literal (v : Value)
  | result (step : Nat)

inductive Call where
  | make (m : Maker)
  | act (on : Nat) (a : Action)

structure Step where
  call : Call
  args : List Argument

inductive Outcome where
  | done (v : Value)
  | fault (f : Fault)
  | skipped

structure Reply where
  outcome : Outcome
  notes : List Note

def Outcome.value? : Outcome → Option Value
  | done v => some v
  | fault (.failure f) => some (.failure f)
  | _ => none

def Value.isFailure : Value → Bool
  | failure _ => true
  | _ => false

structure Session where
  world : World
  results : List (Option Value)

namespace Session

def result? (s : Session) (i : Nat) : Option Value := (s.results[i]?).join

def argument? (s : Session) : Argument → Option Value
  | .literal v => some v
  | .result i => s.result? i

def receiver? (s : Session) (i : Nat) (a : Action) : Option Value := do
  let v ← s.result? i
  if v.isFailure && !a.SuitsFailure then none else some v

def arguments? (s : Session) (takesFailures : Bool) (args : List Argument) : Option (List Value) := do
  let vs ← args.mapM s.argument?
  if vs.any Value.isFailure && !takesFailures then none else some vs

/-- Carries out a maker that changes the surroundings. The text for the system's zone is meant to be of
the form that `World.start` describes. -/
def change? (w : World) (m : Maker) (args : List Value) : Option (World × Value) :=
  match m, args with
  | .setSystemZone, [.text s] =>
    some ({ w with system := (ZoneRule.ofText? s).getD (.fixed "UTC" 0) }, .null)
  | .customZone, [a, b, c, d] =>
    some ({ w with custom := .constant a.number? b.number? c.number? d.number? }, .zone .custom)
  | _, _ => none

def reply (t : Traced Value) : Reply :=
  match t.result with
  | .ok v => ⟨.done v, t.notes⟩
  | .error f => ⟨.fault f, t.notes⟩

def answer (s : Session) (step : Step) : World × Reply :=
  match step.call with
  | .make m =>
    match s.arguments? m.TakesFailures step.args with
    | none => (s.world, ⟨.skipped, []⟩)
    | some args =>
      match change? s.world m args with
      | some (w, v) => (w, ⟨.done v, []⟩)
      | none => (s.world, reply (m.make s.world args))
  | .act i a =>
    match s.receiver? i a, s.arguments? a.TakesFailures step.args with
    | some v, some args => (s.world, reply (a.perform s.world v args))
    | _, _ => (s.world, ⟨.skipped, []⟩)

def perform (s : Session) (step : Step) : Session × Reply :=
  let (w, r) := s.answer step
  (⟨w, s.results ++ [r.outcome.value?]⟩, r)

def replies (s : Session) : List Step → List Reply
  | [] => []
  | step :: steps =>
    let (s, r) := s.perform step
    r :: s.replies steps

end Session

/-- The surroundings in which a program starts: a system zone by the text of its rule, the known
regions, and a zone outside the library that knows nothing.

The text is meant to be `std off` or `std off dst [off],start[/time],end[/time]` with names of three
letters or more, as `ZoneRule.ofText?` reads it; any other text counts as UTC here. A system also takes a
colon in front and the names of files with zone data, refuses shorter names, and counts no more than 24
hours, 59 minutes and 59 seconds in an offset. -/
def World.start (systemZone : String) (regions : List (String × RegionData)) : World where
  system := (ZoneRule.ofText? systemZone).getD (.fixed "UTC" 0)
  regions := regions
  custom := .constant none none none none

def run (w : World) (steps : List Step) : List Reply := (Session.mk w []).replies steps

end CivilTime
