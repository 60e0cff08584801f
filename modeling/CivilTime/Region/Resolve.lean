/-
  CivilTime.Region.Resolve — the offsets that a region has at a moment of UTC and at a clock reading.

  A moment of UTC has one offset: that of the clock reading it is shown as. A clock reading is
  tried as one shown for the first time. Unless it comes back from UTC unchanged the reading is
  skipped; if it would have another offset when shown for the second time it is ambiguous.
-/

import CivilTime.Region.Lookup
import CivilTime.Resolution
import CivilTime.Traced

namespace CivilTime

open CivilDateTime (InCalendar)

structure Region where
  key : String
  data : RegionData
  deriving DecidableEq

namespace Region

/-- The offset that a kind of local time has in a region. Records may hold offsets of a day or more,
and these are no offsets. -/
def offsetOf (r : Region) (t : LocalType) : Except Fault RegionOffset :=
  match Offset.ofSeconds? t.offset with
  | some o => .ok ⟨o, r.key, some t.name⟩
  | none => .error .offsetTooLarge

/-- The clock reading of a second of UTC and its fold, where the reading is in the calendar. -/
def shown (r : Region) (t : Int) : Except Failure (Int × Fold) :=
  let (type, fold) := r.data.ofUtc t
  let w := t + type.offset
  if InCalendar w then .ok (w, fold) else .error .invalidDateTime

def offsetOfUtc (r : Region) (x : CivilDateTime) : Traced RegionOffset := do
  let (w, fold) ← .of (r.shown x.timestamp)
  .lift id (r.offsetOf (r.data.ofLocal w fold))

def candidates (r : Region) (x : CivilDateTime) : Traced (Resolution RegionOffset) := do
  let w := x.timestamp
  let early ← .lift id (r.offsetOf (r.data.ofLocal w .first))
  let u := w - early.offset.seconds
  if ¬ InCalendar u then .fail .invalidDateTime
  else
    let (back, _) ← .of (r.shown u)
    if back ≠ w then
      .note (.irregular x .skipped (some r.key))
      .fail .invalidDateTime
    else
      let late ← .lift id (r.offsetOf (r.data.ofLocal w .second))
      if early.offset = late.offset then return .single early
      else
        .note (.irregular x .ambiguous (some r.key))
        return .ambiguous early late

end Region

end CivilTime
