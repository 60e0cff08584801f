/-
  CivilTime.World — what operations on zones look up in their surroundings: the rule of the
  system's zone, the regions that are known, and a zone defined outside the library.
-/

import CivilTime.Region.Resolve
import CivilTime.System.Resolve

namespace CivilTime

/-- A zone defined outside the library answers four questions about offsets as it likes, also when
it is asked about something that is no date or no reading. -/
structure CustomZone where
  localDate : CivilDate → Except Fault Offset
  localDateTime : CivilDateTime → Except Fault Offset
  utcDate : CivilDate → Except Fault Offset
  utcDateTime : CivilDateTime → Except Fault Offset
  unfit : Resolver → Except Fault Offset

/-- A zone that gives the same answer to every question of a kind: a number of seconds, which need
not be an offset, or none for a moment that does not exist. -/
def CustomZone.constant (localDate localDateTime utcDate utcDateTime : Option Int) : CustomZone :=
  let answer : Option Int → Except Fault Offset
    | none => .error (.failure .invalidDateTime)
    | some s =>
      match Offset.ofSeconds? s with
      | some o => .ok o
      | none => .error (.offsetOutOfBounds s)
  { localDate := fun _ => answer localDate
    localDateTime := fun _ => answer localDateTime
    utcDate := fun _ => answer utcDate
    utcDateTime := fun _ => answer utcDateTime
    unfit
      | .localDate => answer localDate
      | .localDateTime => answer localDateTime
      | .utcDate => answer utcDate
      | .utcDateTime => answer utcDateTime }

structure World where
  system : ZoneRule
  regions : List (String × RegionData)
  custom : CustomZone

def World.region (w : World) (key : String) : Except KeyFault Region := do
  Key.check key
  match w.regions.lookup key with
  | some data => return ⟨key, data⟩
  | none => .error (.unknown key)

end CivilTime
