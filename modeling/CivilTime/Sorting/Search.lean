/-
  CivilTime.Sorting.Search — finding the first place at which a test holds, where the test may fail
  with a fault.

  The test is meant to hold from some place on. Every search makes as few tests as it can, and
  which ones it makes is part of what it is: the fault of a search is that of the first test that
  fails.
-/

namespace CivilTime.Sorting

variable {ε : Type}

/-- Halving search for the first of the places `lo`, …, `hi - 1` at which the test holds, and `hi`
if there is none. -/
def firstHit (test : Nat → Except ε Bool) (lo hi : Nat) : Except ε Nat :=
  if lo < hi then do
    let mid := (lo + hi) / 2
    if ← test mid then firstHit test lo mid else firstHit test (mid + 1) hi
  else return lo
termination_by hi - lo

/-- Tries the distances 1, 3, 7, … below a limit until the test does not hold. Gives the last
distance at which it held, from `near`, and the first at which it is not known to hold. -/
def stride (test : Nat → Except ε Bool) (limit near far : Nat) : Except ε (Nat × Nat) :=
  if far < limit then do
    if ← test far then stride test limit far (2 * far + 1) else return (near, far)
  else return (near, limit)
termination_by limit - far

/-- Search for the first of `n` places at which the test holds that starts at a place near which it
is expected: strides away from there to either side, then halving. -/
def gallop (test : Nat → Except ε Bool) (n start : Nat) : Except ε Nat := do
  if ← test start then
    let (near, far) ← stride (fun k => test (start - k)) (start + 1) 0 1
    firstHit test (start + 1 - far) (start - near)
  else
    let (near, far) ← stride (fun k => return !(← test (start + k))) (n - start) 0 1
    firstHit test (start + near + 1) (start + far)

end CivilTime.Sorting
