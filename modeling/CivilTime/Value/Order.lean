/-
  CivilTime.Value.Order — when values are equal and which of two comes first.

  A flag counts as the number zero or one. Zoned dates are compared by their date and moments by
  their reading in UTC, whatever their zones. A region is its key. Zones, offsets and resolutions
  have no order, and values of different kinds are neither equal nor ordered.
-/

import CivilTime.Sorting
import CivilTime.Value

namespace CivilTime.Value

/-! ## Equality -/

/-- Are two zones the same? Of a region only its key counts. -/
def sameZone : Zone → Zone → Bool
  | .utc, .utc => true
  | .fixed a, .fixed b => a == b
  | .system, .system => true
  | .region a, .region b => a.key == b.key
  | .custom, .custom => true
  | _, _ => false

mutual

def same : Value → Value → Bool
  | null, null => true
  | flag a, flag b => a == b
  | flag a, int b => (if a then 1 else 0) == b
  | int a, flag b => a == (if b then 1 else 0)
  | int a, int b => a == b
  | text a, text b => a == b
  | pair a b, pair c d => a == c && b == d
  | list as, list bs => sameAll as bs
  | date a, date b => a == b
  | clockTime a, clockTime b => a == b
  | dateTime a, dateTime b => a == b
  | plainDate a, plainDate b => a == b
  | plainTime a, plainTime b => a == b
  | plainDateTime a, plainDateTime b => a == b
  | zone a, zone b => sameZone a b
  | regionOffset a, regionOffset b => a == b
  | zonedDate a, zonedDate b => a.date == b.date
  | moment a, moment b => a.utc == b.utc
  | single a, single b => same a b
  | ambiguous a b, ambiguous c d => same a c && same b d
  | failureKind a, failureKind b => a == b
  | failure a, failure b => a == b
  | _, _ => false

def sameAll : List Value → List Value → Bool
  | [], [] => true
  | a :: as, b :: bs => same a b && sameAll as bs
  | _, _ => false

end

/-! ## Order -/

mutual

def order : Value → Value → Except Fault Ordering
  | flag a, flag b => return compare (if a then 1 else 0) (if b then 1 else 0)
  | flag a, int b => return compare (if a then (1 : Int) else 0) b
  | int a, flag b => return compare a (if b then (1 : Int) else 0)
  | int a, int b => return compare a b
  | text a, text b => return compare a b
  | pair a b, pair c d => return (compare a c).then (compare b d)
  | list as, list bs => orderAll as bs
  | date a, date b => return a.compare b
  | clockTime a, clockTime b => return a.compare b
  | dateTime a, dateTime b => return a.compare b
  | plainDate a, plainDate b => return a.compare b
  | plainTime a, plainTime b => return a.compare b
  | plainDateTime a, plainDateTime b => return a.compare b
  | plainDate _, plainDateTime _ => .error .noDateOrder
  | plainDateTime _, plainDate _ => .error .noDateOrder
  | zonedDate a, zonedDate b => return a.date.compare b.date
  | moment a, moment b => return a.utc.compare b.utc
  | a, b => .error (.noOrder a.kindName b.kindName)

def orderAll : List Value → List Value → Except Fault Ordering
  | [], [] => return .eq
  | [], _ :: _ => return .lt
  | _ :: _, [] => return .gt
  | a :: as, b :: bs => if same a b then orderAll as bs else order a b

end

/-- The six comparisons of two values: equal, different, less, at most, greater, at least. An order
that does not exist is named by the kind of its fault. -/
def comparisons (a b : Value) : List Value :=
  let ordered (f : Ordering → Bool) : Value :=
    match order a b with
    | .ok o => flag (f o)
    | .error _ => text "TypeError"
  [flag (same a b), flag (!same a b), ordered Ordering.isLT, ordered Ordering.isLE, ordered Ordering.isGT,
    ordered Ordering.isGE]

def less (a b : Value) : Except Fault Bool := return (← order a b).isLT

def Ordered (a b : Value) : Prop := (order a b).isOk

instance (a b : Value) : Decidable (Ordered a b) := by
  unfold Ordered; infer_instance

/-- The values in ascending order; equal ones keep their places. If every two values have an order it
fixes the sequence. If not, sorting fails at the first comparison that it makes in vain. -/
def sorted (vs : List Value) : Except Fault (List Value) :=
  if vs.Pairwise Ordered then
    return vs.mergeSort fun a b => match order a b with
      | .ok o => o.isLE
      | .error _ => false
  else Sorting.sort less vs

/-! ## Sets -/

/-- Can a value be looked up in a set? Lists cannot. -/
def isHashable : Value → Bool
  | list _ => false
  | single v => v.isHashable
  | ambiguous a b => a.isHashable && b.isHashable
  | _ => true

/-- One value for each class of equal ones, the first of them. -/
def distinct (vs : List Value) : List Value :=
  vs.foldl (fun kept v => if kept.any (same · v) then kept else kept ++ [v]) []

end CivilTime.Value
