/-
  CivilTime.Sorting.Merge — two neighbouring ascending lists made into one.

  The merge goes from the front or from the back, whichever needs less room. At first it compares
  the two next values and places one of them at a time. When one list has won often enough in a
  row, the merge gallops: it looks for all values of a list that go before the next one of the
  other and places them together, as long as that places many. How often is enough changes with
  success: galloping that goes on lowers the bar, galloping that ends raises it.

  Equal values keep their places: one of the left list goes before its equal of the right list.
-/

import CivilTime.Sorting.Search

namespace CivilTime.Sorting

variable {ε α : Type}

inductive End where
  | front
  | back
  deriving DecidableEq, Repr

/-- Whether a merge places one value at a time, and how many of one list it has just placed in a
row, or whole stretches. -/
inductive Pace where
  | single (ofRight : Bool) (row : Nat)
  | galloping

def longStretch : Nat := 7

/-- The first place in an ascending list from which on the values belong behind some other value.
The search starts at a place near which it is expected. -/
def boundary (behind : α → Except ε Bool) (xs : List α) (start : Nat) : Except ε Nat :=
  let values := xs.toArray
  gallop (fun i => match values[i]? with
    | some x => behind x
    | none => return true) values.size start

/-- A merge on its way. The lists and the placed values stand in the order of the merge, which for a
merge from the back is the descending one; the value placed last is the first of `placed`. -/
structure Merging (α : Type) where
  left : List α
  right : List α
  placed : List α

namespace Merging

/-- What remains has its place without a comparison: one list is used up, or there is one value left
that is known to go last. -/
def isDone (e : End) (m : Merging α) : Bool :=
  match e with
  | .front => m.right.isEmpty || m.left.length ≤ 1
  | .back => m.left.isEmpty || m.right.length ≤ 1

def result (e : End) (m : Merging α) : List α :=
  match e with
  | .front => m.placed.reverse ++ m.right ++ m.left
  | .back => m.right.reverse ++ m.left.reverse ++ m.placed

/-- How many of the next values of a list go before the value that `behind` compares with. -/
def leading (e : End) (behind : α → Except ε Bool) (xs : List α) : Except ε Nat :=
  match e with
  | .front => boundary behind xs 0
  | .back => return xs.length - (← boundary behind xs.reverse (xs.length - 1))

def takeLeft (n : Nat) (m : Merging α) : Merging α :=
  ⟨m.left.drop n, m.right, (m.left.take n).reverse ++ m.placed⟩

def takeRight (n : Nat) (m : Merging α) : Merging α :=
  ⟨m.left, m.right.drop n, (m.right.take n).reverse ++ m.placed⟩

/-- Goes on to the end of a merge. `bar` says how many values of one list in a row make the merge
gallop, and comes back as the bar for the next merge. -/
def finish (less : α → α → Except ε Bool) (e : End) (bar : Nat) (pace : Pace) (m : Merging α) :
    Except ε (Nat × List α) :=
  if m.isDone e then return (bar, m.result e)
  else
    match m with
    | ⟨l :: ls, r :: rs, placed⟩ =>
      match pace with
      | .single ofRight row => do
        let rightNext := (← less r l) == (e == .front)
        let row := if rightNext == ofRight then row + 1 else 1
        let pace := if bar ≤ row then Pace.galloping else .single rightNext row
        if rightNext then finish less e bar pace ⟨l :: ls, rs, r :: placed⟩
        else finish less e bar pace ⟨ls, r :: rs, l :: placed⟩
      | .galloping => do
        -- the stretch of the left list before `r`, then `r`; the stretch of the right one before `l'`, then `l'`
        let i ← leading e (less r) (l :: ls)
        let m := takeLeft i ⟨l :: ls, r :: rs, placed⟩
        if m.isDone e then return (bar, m.result e)
        match m.left with
        | [] => return (bar, m.result e)
        | l' :: ls' =>
          let m := takeRight 1 m
          if m.isDone e then return (bar, m.result e)
          let j ← leading e (fun x => return !(← less x l')) rs
          let m := takeRight j m
          if m.isDone e then return (bar, m.result e)
          let m := takeLeft 1 m
          if m.isDone e then return (bar, m.result e)
          if longStretch ≤ i ∨ longStretch ≤ j then finish less e (max 1 (bar - 1)) .galloping m
          else finish less e (bar + 1) (.single true 0) m
    | m => return (bar, m.result e)
termination_by m.left.length + m.right.length
decreasing_by all_goals simp [takeLeft, takeRight] <;> omega

end Merging

/-- Merges two neighbouring ascending lists. Values at the front of the left list and at the back of
the right one that are in place already take no part. -/
def merge (less : α → α → Except ε Bool) (bar : Nat) (left right : List α) :
    Except ε (Nat × List α) := do
  let some first := right.head? | return (bar, left)
  let skip ← boundary (less first) left 0
  let (before, left) := left.splitAt skip
  let some last := left.getLast? | return (bar, before ++ right)
  let count ← boundary (fun x => return !(← less x last)) right (right.length - 1)
  let (right, after) := right.splitAt count
  let (bar, merged) ←
    -- the merge starts at the side of the shorter list, which is the one to be set aside
    if left.length ≤ right.length then
      Merging.finish less .front bar (.single true 0) (.takeRight 1 ⟨left, right, []⟩)
    else
      Merging.finish less .back bar (.single true 0) (.takeLeft 1 ⟨left.reverse, right.reverse, []⟩)
  return (bar, before ++ merged ++ after)

end CivilTime.Sorting
