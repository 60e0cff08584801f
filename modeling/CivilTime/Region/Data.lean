/-
  CivilTime.Region.Data — the recorded history of a region's clocks: which kinds of local time it
  has known, when it changed from one to another, and by what rule it goes on.
-/

import CivilTime.Rule.Basic

namespace CivilTime

structure LocalType where
  offset : Int
  isDaylight : Bool
  name : String
  deriving DecidableEq, Repr, Inhabited

structure Transition where
  instant : Int
  type : LocalType
  deriving DecidableEq, Repr, Inhabited

structure RegionData where
  /-- The first recorded kind of local time, against which the first change is measured. -/
  first : LocalType
  /-- The local time before the first change. -/
  before : LocalType
  transitions : Array Transition
  /-- What holds after the last change. -/
  after : ZoneRule
  deriving DecidableEq, Repr

namespace RegionData

/-- The history made of a list of kinds, the changes by second and number of kind, and a rule for
the time after. The first kind that is no daylight saving time holds before all changes. Without a
rule the last change holds for ever, and the last kind if nothing ever changed. -/
def ofTable? (types : List LocalType) (changes : List (Int × Nat)) (rule : Option ZoneRule) :
    Option RegionData := do
  let first ← types.head?
  let last ← types.getLast?
  let transitions ← changes.mapM fun c => (types[c.2]?).map fun t => (⟨c.1, t⟩ : Transition)
  let final := (transitions.getLast?.map Transition.type).getD last
  return {
    first
    before := (types.find? (!·.isDaylight)).getD first
    transitions := transitions.toArray
    after := rule.getD (.fixed final.name final.offset) }

def size (d : RegionData) : Nat := d.transitions.size

def instant (d : RegionData) (i : Nat) : Int := (d.transitions.getD i ⟨0, d.first⟩).instant

/-- The local time from the `i`-th change on. -/
def type (d : RegionData) (i : Nat) : LocalType := (d.transitions.getD i ⟨0, d.first⟩).type

/-- The offset that the `i`-th change is measured against. -/
def offsetBefore (d : RegionData) (i : Nat) : Int :=
  if i = 0 then d.first.offset else (d.type (i - 1)).offset

end RegionData

end CivilTime
