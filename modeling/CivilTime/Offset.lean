/-
  CivilTime.Offset — how far local time is ahead of UTC.

  An `Offset` is a number of seconds, less than a day either way. A `RegionOffset` also remembers
  the region it was found in and the abbreviation in use there.
-/

import CivilTime.CivilDateTime

namespace CivilTime

/-- The seconds by which local time is ahead of UTC. -/
structure Offset where
  seconds : Int
  neg_day_lt : -86400 < seconds
  lt_day : seconds < 86400
  deriving Repr

namespace Offset

theorem ext {a b : Offset} (h : a.seconds = b.seconds) : a = b := by
  cases a; cases b; simp_all

theorem ext_iff {a b : Offset} : a = b ↔ a.seconds = b.seconds := ⟨congrArg seconds, ext⟩

instance : DecidableEq Offset := fun _ _ => decidable_of_iff _ ext_iff.symm

theorem neg_day_lt_zero : (-86400 : Int) < 0 := by decide

theorem zero_lt_day : (0 : Int) < 86400 := by decide

def ofSeconds? (s : Int) : Option Offset :=
  if h : -86400 < s ∧ s < 86400 then some ⟨s, h.1, h.2⟩ else none

/-- The offset of a number of seconds has just these. -/
theorem ofSeconds?_eq_some {n : Int} {o : Offset} : ofSeconds? n = some o ↔ o.seconds = n := by
  have lo := o.neg_day_lt; have hi := o.lt_day
  unfold ofSeconds?
  split
  · simp [ext_iff, eq_comm]
  · rename_i beyond
    constructor
    · intro h; cases h
    · rintro rfl; exact (beyond ⟨lo, hi⟩).elim

def zero : Offset := ⟨0, neg_day_lt_zero, zero_lt_day⟩

end Offset

def CivilDateTime.toLocal (x : CivilDateTime) (o : Offset) : Except Failure CivilDateTime := x.shift o.seconds

def CivilDateTime.toUtc (x : CivilDateTime) (o : Offset) : Except Failure CivilDateTime := x.shift (-o.seconds)

structure RegionOffset where
  offset : Offset
  key : String
  abbreviation : Option String
  deriving DecidableEq

end CivilTime
