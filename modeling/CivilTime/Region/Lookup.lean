/-
  CivilTime.Region.Lookup — which local time is in force in a region, asked from either side.

  Asked by a second of UTC, the answer comes with the fold: whether the clock shows its reading
  for the second time. Asked by a clock reading, the fold chooses between the two times at which
  the reading may have been shown. A change then stands at two places on the clock: at the later
  of its two readings for the first fold, at the earlier one for the second.
-/

import CivilTime.Region.Data

namespace CivilTime

/-- Whether a clock reading is meant when it is shown for the first or for the second time. -/
inductive Fold where
  | first
  | second
  deriving DecidableEq, Repr

/-- Halving search for the first of the places `lo`, …, `hi` at which `f` exceeds `v`, with `hi`
standing for none. If `f` ascends, that is the number of places at which it does not exceed `v`. -/
def upperBound (f : Nat → Int) (v : Int) (lo hi : Nat) : Nat :=
  if lo < hi then
    let mid := (lo + hi) / 2
    if v < f mid then upperBound f v lo mid else upperBound f v (mid + 1) hi
  else hi
termination_by hi - lo

def Daylight.type (d : Daylight) : LocalType := ⟨d.offset, true, d.name⟩

namespace ZoneRule

/-! ## After the last change -/

/-- The days of a region's rule: from day 59 on the count without leap days stands a day later in
a leap year, and the count with leap days starts on the last day of the year before. -/
def regionCount : DayCount := ⟨59, 0⟩

/-- Does `t` lie between start and stop, around the end of the year if they stand the other way? -/
def Between (start stop t : Int) : Prop :=
  if start < stop then start ≤ t ∧ t < stop else t < stop ∨ start ≤ t

instance (start stop t : Int) : Decidable (Between start stop t) := by
  unfold Between; infer_instance

def standardType (r : ZoneRule) : LocalType := ⟨r.offset, false, r.name⟩

/-- The local time of a rule at a second of UTC, and whether its reading is shown again. -/
def ofUtc (r : ZoneRule) (t : Int) : LocalType × Fold :=
  match r.daylight with
  | none => (r.standardType, .first)
  | some d =>
    let y := yearOfSecond t
    let start := d.start.reading regionCount y - r.offset
    let stop := d.stop.reading regionCount y - d.offset
    let gain := d.offset - r.offset
    let again :=
      if 0 < gain then stop ≤ t ∧ t < stop + gain else start ≤ t ∧ t < start - gain
    (if Between start stop t then d.type else r.standardType, if again then .second else .first)

/-- The local time of a rule at a clock reading. The readings shown twice lie before one of the two
changes; which one depends on whether the clock is put forward or back for the season. -/
def ofLocal (r : ZoneRule) (w : Int) (f : Fold) : LocalType :=
  match r.daylight with
  | none => r.standardType
  | some d =>
    let y := yearOfSecond w
    let start := d.start.reading regionCount y
    let stop := d.stop.reading regionCount y
    let gain := d.offset - r.offset
    let inSeason :=
      if f = .second ↔ 0 ≤ gain then Between start (stop - gain) w else Between (start + gain) stop w
    if inSeason then d.type else r.standardType

end ZoneRule

namespace RegionData

/-! ## Among the recorded changes -/

def reading (d : RegionData) (f : Fold) (i : Nat) : Int :=
  let a := d.offsetBefore i
  let b := (d.type i).offset
  d.instant i + match f with
    | .first => max a b
    | .second => min a b

/-- The offset that a second repeats readings of, where the `i`-th change is the last before it. -/
def offsetRepeated (d : RegionData) (i : Nat) : Int :=
  if i = 0 then d.before.offset else (d.type (i - 1)).offset

def ofUtc (d : RegionData) (t : Int) : LocalType × Fold :=
  if d.size = 0 then d.after.ofUtc t
  else if t < d.instant 0 then (d.before, .first)
  else
    let last := d.size - 1
    let repeats (i : Nat) (own : LocalType) : Bool :=
      t - d.instant i < d.offsetRepeated i - own.offset
    if d.instant last < t then
      let (own, fold) := d.after.ofUtc t
      (own, if repeats last own then .second else fold)
    else
      let i := upperBound d.instant t 0 d.size - 1
      (d.type i, if repeats i (d.type i) then .second else .first)

def ofLocal (d : RegionData) (w : Int) (f : Fold) : LocalType :=
  if d.size = 0 then d.after.ofLocal w f
  else if w < d.reading f 0 then d.before
  else if d.reading f (d.size - 1) < w then d.after.ofLocal w f
  else d.type (upperBound (d.reading f) w 0 d.size - 1)

end RegionData

end CivilTime
