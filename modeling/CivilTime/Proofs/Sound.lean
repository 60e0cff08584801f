/-
  CivilTime.Proofs.Sound — sound values.

  A value is sound if the zones in it are known, the dates in it stand in native states and the
  moments in it are sound, at whatever depth. So all its moments are (`sound_of_mem_moments`).
-/

import CivilTime.Proofs.Coherence
import CivilTime.Proofs.Obeying

namespace CivilTime

namespace Value

/-- The zones, dates and moments in a value are such as programs can come upon. -/
def Sound (w : World) (v : Value) : Prop := v.Obeys (soundLaw w)

mutual

def moments : Value → List ZonedDateTime
  | moment m => [m]
  | single v => v.moments
  | ambiguous a b => a.moments ++ b.moments
  | list vs => momentsAll vs
  | _ => []

def momentsAll : List Value → List ZonedDateTime
  | [] => []
  | v :: vs => v.moments ++ momentsAll vs

end

variable {w : World}

mutual

theorem sound_of_mem_moments : ∀ {v : Value}, v.Sound w → ∀ m ∈ v.moments, m.Sound w
  | moment m, h, m', hm => by
    rw [List.mem_singleton.mp hm]; exact h
  | single v, h, m, hm => sound_of_mem_moments (v := v) h m hm
  | ambiguous a b, h, m, hm => by
    rcases List.mem_append.mp hm with hm | hm
    · exact sound_of_mem_moments h.1 m hm
    · exact sound_of_mem_moments h.2 m hm
  | list vs, h, m, hm => sound_of_mem_momentsAll h m hm
  | null, _, _, hm | flag _, _, _, hm | int _, _, _, hm | text _, _, _, hm | pair _ _, _, _, hm
  | date _, _, _, hm | clockTime _, _, _, hm | dateTime _, _, _, hm | plainDate _, _, _, hm
  | plainTime _, _, _, hm | plainDateTime _, _, _, hm | zone _, _, _, hm | regionOffset _, _, _, hm
  | zonedDate _, _, _, hm | failureKind _, _, _, hm | failure _, _, _, hm => by cases hm

theorem sound_of_mem_momentsAll : ∀ {vs : List Value}, ObeysAll (soundLaw w) vs → ∀ m ∈ momentsAll vs, m.Sound w
  | [], _, _, hm => by cases hm
  | v :: vs, h, m, hm => by
    rcases List.mem_append.mp hm with hm | hm
    · exact sound_of_mem_moments h.1 m hm
    · exact sound_of_mem_momentsAll h.2 m hm

end

end Value

end CivilTime
