/-
  CivilTime.Sorting — putting values in ascending order by a comparison that may fail.

  A list is cut into ascending runs, which are merged. A run is as long as the values ascend, or
  descend, by themselves; one that is too short is filled up by inserting the values after it.
  Runs are merged as soon as they are found, in such an order that lists of like length meet.

  The fault of a sort is that of the first comparison that fails, so the order in which comparisons
  are made is fixed down to the last one. Where none fails, equal values keep their places.
-/

import CivilTime.Sorting.Merge

namespace CivilTime.Sorting

variable {ε α : Type}

/-! ## Runs -/

/-- How many values go on as they began: each is less than the one before it, or none is. -/
def steady (less : α → α → Except ε Bool) (falling : Bool) : α → List α → Except ε Nat
  | _, [] => return 0
  | a, b :: bs => do if (← less b a) == falling then return (← steady less falling b bs) + 1 else return 0

/-- Whether the run at the front of a list falls, and how many values it has after the first. -/
def frontRun (less : α → α → Except ε Bool) : α → List α → Except ε (Bool × Nat)
  | _, [] => return (false, 0)
  | a, b :: bs => do
    let falling ← less b a
    return (falling, (← steady less falling b bs) + 1)

def insertBehind (less : α → α → Except ε Bool) (run : List α) (a : α) : Except ε (List α) := do
  let values := run.toArray
  let i ← firstHit (fun i => match values[i]? with
    | some x => less a x
    | none => return true) 0 values.size
  return run.take i ++ a :: run.drop i

/-- The length that runs of a list of `n` values are filled up to: `n` halved, rounding up once,
until it is below 64. -/
def runLength (n : Nat) : Nat :=
  let power := Nat.pow 2 (Nat.log2 n - 5)
  (n + power - 1) / power

/-! ## Merges -/

structure Waiting (α : Type) where
  /-- The run found last. -/
  top : List α
  /-- The runs before it, the last one first, each with the depth of the border behind it. -/
  below : List (List α × Nat)
  /-- How many values of one list in a row make a merge gallop. -/
  bar : Nat

namespace Waiting

/-- The depth of the border between two neighbouring runs in a list of `n` values: the first binary
place in which their middles differ as parts of the whole. -/
def depth (n start len next : Nat) : Nat :=
  let a := 2 * start + len
  let b := a + len + next
  let differ (k : Nat) : Bool := a * Nat.pow 2 k / n != b * Nat.pow 2 k / n
  ((List.range n).find? differ).getD n + 1

/-- Merges the last run with those before it that end at a border deeper than `d`. -/
def settle (less : α → α → Except ε Bool) (d bar : Nat) (top : List α) :
    List (List α × Nat) → Except ε (Waiting α)
  | [] => return ⟨top, [], bar⟩
  | (run, deep) :: below =>
    if d < deep then do
      let (bar, top) ← merge less bar run top
      settle less d bar top below
    else return ⟨top, (run, deep) :: below, bar⟩

def push (less : α → α → Except ε Bool) (n : Nat) (w : Waiting α) (run : List α) :
    Except ε (Waiting α) := do
  let start := (w.below.flatMap Prod.fst).length
  let d := depth n start w.top.length run.length
  let w ← settle less d w.bar w.top w.below
  return ⟨run, (w.top, d) :: w.below, w.bar⟩

/-- Merges all runs, the last two first unless the run before them is shorter than the last. -/
def collapse (less : α → α → Except ε Bool) (bar : Nat) (top : List α) :
    List (List α × Nat) → Except ε (List α)
  | [] => return top
  | [(run, _)] => return (← merge less bar run top).2
  | (run, _) :: (before, deep) :: below =>
    if before.length < top.length then do
      let (bar, joined) ← merge less bar before run
      collapse less bar top ((joined, deep) :: below)
    else do
      let (bar, top) ← merge less bar run top
      collapse less bar top ((before, deep) :: below)
termination_by below => below.length

end Waiting

/-! ## Sorting -/

def takeRuns (less : α → α → Except ε Bool) (n : Nat) (w : Option (Waiting α)) :
    List α → Except ε (Option (Waiting α))
  | [] => return w
  | a :: as => do
    let (falling, more) ← frontRun less a as
    let run := a :: as.take more
    let missing := runLength n - run.length
    let run ← ((as.drop more).take missing).foldlM (insertBehind less) (if falling then run.reverse else run)
    let w ← match w with
      | some w => w.push less n run
      | none => pure ⟨run, [], longStretch⟩
    takeRuns less n (some w) (as.drop (more + missing))
termination_by as => as.length

def sort (less : α → α → Except ε Bool) (as : List α) : Except ε (List α) := do
  match ← takeRuns less as.length none as with
  | some w => Waiting.collapse less w.bar w.top w.below
  | none => return []

end CivilTime.Sorting
