/-
  CivilTime.Proofs.Region.Table — regions whose clocks change at listed seconds and never again.

  Around the `i`-th change the clock skips or repeats the readings of a window, from the earlier of
  its two readings at the change to the later one (`windowStart`, `windowEnd`). The list is regular
  (`IsTable`) if changes follow one another in time, no window begins before the last one has
  ended, and the first kind of local time is no daylight saving time.

  The two lookups by a reading search the ends and the starts of the windows. Cutting these lists
  at a reading `w` leaves `k` ends and `l` starts, and `k ≤ l ≤ k + 1`: either `w` is in no window
  (`l = k`), or in the `k`-th one. So the segments between changes that can show `w` are the `k`-th
  and the `l`-th, which is what the lookups answer (`sighting`).

  `recorded` is the timeline that the list stands for, said without a search. Main statement:
  a reading resolves to its inverse image under it (`resolve_table_inverseImage`).
-/

import CivilTime.Proofs.Region.Faithful

namespace CivilTime

open CivilDateTime (InCalendar)

/-! ## Searching an ascending list -/

/-- The first `k` of `n` values do not exceed `v`, and the others do. -/
structure Cut (f : Nat → Int) (v : Int) (n k : Nat) : Prop where
  le : k ≤ n
  below : ∀ i, i < k → f i ≤ v
  above : ∀ i, k ≤ i → i < n → v < f i

/-- The values of a list follow one another, and may stand still. -/
def Ascends (f : Nat → Int) (n : Nat) : Prop := ∀ i, i + 1 < n → f i ≤ f (i + 1)

theorem Ascends.le {f : Nat → Int} {n i j : Nat} (h : Ascends f n) (hij : i ≤ j) (hj : j < n) : f i ≤ f j := by
  induction hij with
  | refl => exact Int.le_refl _
  | step _ ih => exact Int.le_trans (ih (by omega)) (h _ hj)

theorem Cut.last {f : Nat → Int} {v : Int} {n k : Nat} (h : Cut f v n k) (pos : 0 < k) : f (k - 1) ≤ v :=
  h.below (k - 1) (by omega)

theorem Cut.next {f : Nat → Int} {v : Int} {n k : Nat} (h : Cut f v n k) (less : k < n) : v < f k :=
  h.above k (Nat.le_refl _) less

theorem Cut.unique {f : Nat → Int} {v : Int} {n k l : Nat} (h : Cut f v n k) (g : Cut f v n l) : k = l := by
  rcases Nat.lt_trichotomy k l with less | same | more
  · have := g.le; have := g.below k less; have := h.next (by omega)
    omega
  · exact same
  · have := h.le; have := h.below l more; have := g.next (by omega)
    omega

theorem Cut.eq_zero {f : Nat → Int} {v : Int} {n k : Nat} (h : Cut f v n k) (first : v < f 0) : k = 0 := by
  by_cases pos : 0 < k
  · have := h.below 0 pos; omega
  · omega

theorem Cut.pos {f : Nat → Int} {v : Int} {n k : Nat} (h : Cut f v n k) (some : 0 < n) (first : f 0 ≤ v) :
    0 < k := by
  by_cases zero : k = 0
  · have := h.above 0 (by omega) some; omega
  · omega

theorem Cut.eq_all {f : Nat → Int} {v : Int} {n k : Nat} (h : Cut f v n k) (last : f (n - 1) ≤ v) : k = n := by
  have le := h.le
  by_cases less : k < n
  · have := h.above (n - 1) (by omega) (by omega); omega
  · omega

/-- In an ascending list the neighbours of a cut are enough to know it by. -/
theorem Ascends.cut {f : Nat → Int} {v : Int} {n k : Nat} (h : Ascends f n) (le : k ≤ n)
    (last : 0 < k → f (k - 1) ≤ v) (next : k < n → v < f k) : Cut f v n k where
  le := le
  below i hi := Int.le_trans (h.le (show i ≤ k - 1 by omega) (by omega)) (last (by omega))
  above i hk hn := Int.lt_of_lt_of_le (next (by omega)) (h.le hk hn)

/-- Halving finds the cut, if it is between the ends of the search. -/
theorem cut_upperBound_of {f : Nat → Int} {v : Int} {n : Nat} (h : Ascends f n) (lo hi : Nat) (le : lo ≤ hi)
    (hn : hi ≤ n) (below : ∀ i, i < lo → f i ≤ v) (above : ∀ i, hi ≤ i → i < n → v < f i) :
    Cut f v n (upperBound f v lo hi) := by
  fun_induction upperBound f v lo hi with
  | case1 lo hi less mid more ih =>
    refine ih (by omega) (by omega) below fun i hi hn => ?_
    exact Int.lt_of_lt_of_le more (h.le hi hn)
  | case2 lo hi less mid more ih =>
    refine ih (by omega) hn (fun i hi => ?_) above
    exact Int.le_trans (h.le (show i ≤ mid by omega) (by omega)) (by omega)
  | case3 lo hi more =>
    have : lo = hi := by omega
    subst this
    exact ⟨hn, below, above⟩

theorem cut_upperBound {f : Nat → Int} {n : Nat} (h : Ascends f n) (v : Int) :
    Cut f v n (upperBound f v 0 n) :=
  cut_upperBound_of h 0 n (Nat.zero_le _) (Nat.le_refl _) (fun i hi => by omega) (fun i hi hn => by omega)

/-! ## Tables -/

namespace RegionData

def windowStart (d : RegionData) (i : Nat) : Int := d.instant i + min (d.offsetBefore i) (d.type i).offset

def windowEnd (d : RegionData) (i : Nat) : Int := d.instant i + max (d.offsetBefore i) (d.type i).offset

/-- Changes of the clock in a list, one after the other, with nothing said of the time after. -/
structure IsTable (d : RegionData) : Prop where
  listed : ∃ types changes, ofTable? types changes none = some d
  nonempty : 0 < d.size
  standardFirst : d.first.isDaylight = false
  ascending : ∀ i, i + 1 < d.size → d.instant i < d.instant (i + 1)
  apart : ∀ i, i + 1 < d.size → d.windowEnd i ≤ d.windowStart (i + 1)

structure ListsBelowDay (d : RegionData) : Prop where
  first : d.first.BelowDay
  types : ∀ i, i < d.size → (d.type i).BelowDay

/-- The local time of the last change up to a second, or the first kind before all changes. -/
def recorded (d : RegionData) : Timeline := fun t =>
  ((d.transitions.toList.filter fun c => c.instant ≤ t).getLast?.map Transition.type).getD d.first

def segment (d : RegionData) (k : Nat) : LocalType := if k = 0 then d.first else d.type (k - 1)

theorem segment_succ (d : RegionData) (k : Nat) : d.segment (k + 1) = d.type k := rfl

theorem offsetBefore_eq (d : RegionData) (i : Nat) : d.offsetBefore i = (d.segment i).offset := by
  unfold offsetBefore segment; split <;> rfl

theorem windowStart_eq (d : RegionData) (i : Nat) :
    d.windowStart i = d.instant i + min (d.segment i).offset (d.segment (i + 1)).offset := by
  rw [windowStart, offsetBefore_eq, segment_succ]

theorem windowEnd_eq (d : RegionData) (i : Nat) :
    d.windowEnd i = d.instant i + max (d.segment i).offset (d.segment (i + 1)).offset := by
  rw [windowEnd, offsetBefore_eq, segment_succ]

theorem reading_first (d : RegionData) (i : Nat) :
    d.reading .first i = d.instant i + max (d.segment i).offset (d.segment (i + 1)).offset := windowEnd_eq d i

theorem reading_second (d : RegionData) (i : Nat) :
    d.reading .second i = d.instant i + min (d.segment i).offset (d.segment (i + 1)).offset := windowStart_eq d i

/-! ## What a table hands over -/

/-- Before all changes of a list the first kind holds, unless it is daylight saving time. -/
theorem before_of_listed {d : RegionData} {types : List LocalType} {changes : List (Int × Nat)}
    (h : ofTable? types changes none = some d) (first : d.first.isDaylight = false) : d.before = d.first := by
  simp only [ofTable?, Option.bind_eq_bind, Option.bind_eq_some_iff, Option.pure_def, Option.some.injEq] at h
  obtain ⟨head, hhead, last, -, transitions, -, hd⟩ := h
  obtain ⟨rest, rfl⟩ := List.head?_eq_some_iff.mp hhead
  subst hd
  have : (!head.isDaylight) = true := by rw [first]; rfl
  simp [this]

/-- After the last change of a list nothing changes any more. -/
theorem after_of_listed {d : RegionData} {types : List LocalType} {changes : List (Int × Nat)}
    (h : ofTable? types changes none = some d) (some : 0 < d.size) :
    d.after = .fixed (d.type (d.size - 1)).name (d.type (d.size - 1)).offset := by
  simp only [ofTable?, Option.bind_eq_bind, Option.bind_eq_some_iff, Option.pure_def, Option.some.injEq] at h
  obtain ⟨head, -, last, -, transitions, -, rfl⟩ := h
  have lt : transitions.length - 1 < transitions.length := by
    simp only [size, List.size_toArray] at some; omega
  have final : transitions.getLast? = transitions[transitions.length - 1]? := List.getLast?_eq_getElem?
  simp [type, size, final, lt]

theorem IsTable.before {d : RegionData} (table : d.IsTable) : d.before = d.first := by
  obtain ⟨types, changes, h⟩ := table.listed
  exact before_of_listed h table.standardFirst

theorem IsTable.after {d : RegionData} (table : d.IsTable) :
    d.after = .fixed (d.segment d.size).name (d.segment d.size).offset := by
  obtain ⟨types, changes, h⟩ := table.listed
  rw [after_of_listed h table.nonempty]
  have := table.nonempty
  simp [segment, show d.size ≠ 0 by omega]

/-! ## The lookups of a table -/

section Lookups

variable {d : RegionData} (table : d.IsTable)

include table

theorem IsTable.ascends_instant : Ascends d.instant d.size :=
  fun i hi => Int.le_of_lt (table.ascending i hi)

theorem IsTable.ascends_reading (f : Fold) : Ascends (d.reading f) d.size := by
  intro i hi
  have apart := table.apart i hi
  unfold windowStart windowEnd at apart
  cases f <;> simp only [reading] <;> omega

theorem alike_after (t : Int) : (d.after.ofUtc t).1.Alike (d.segment d.size) ∧ (d.after.ofUtc t).2 = .first ∧
    ∀ f, (d.after.ofLocal t f).Alike (d.segment d.size) := by
  rw [table.after]
  exact ⟨⟨rfl, rfl⟩, rfl, fun _ => ⟨rfl, rfl⟩⟩

/-- The lookup from UTC answers the segment that a second falls into. -/
theorem clock_alike {t : Int} {k : Nat} (cut : Cut d.instant t d.size k) : (d.clock t).Alike (d.segment k) := by
  have some := table.nonempty
  unfold clock ofUtc
  rw [if_neg (by omega)]
  split
  · rename_i early
    rw [cut.eq_zero early, table.before]
    exact .refl _
  · rename_i notEarly
    dsimp only
    split
    · rename_i late
      rw [cut.eq_all (Int.le_of_lt late)]
      exact (alike_after table t).1
    · have pos := cut.pos some (by omega)
      rw [(cut_upperBound table.ascends_instant t).unique cut, segment, if_neg (show ¬ k = 0 by omega)]
      exact .refl _

/-- The lookup by a reading answers the segment that it falls into, each change standing where the
fold puts it. -/
theorem ofLocal_alike {w : Int} {f : Fold} {k : Nat} (cut : Cut (d.reading f) w d.size k) :
    (d.ofLocal w f).Alike (d.segment k) := by
  have some := table.nonempty
  unfold ofLocal
  rw [if_neg (by omega)]
  split
  · rename_i early
    rw [cut.eq_zero early, table.before]
    exact .refl _
  · rename_i notEarly
    split
    · rename_i late
      rw [cut.eq_all (Int.le_of_lt late)]
      exact (alike_after table w).2.2 f
    · have pos := cut.pos some (by omega)
      rw [(cut_upperBound (table.ascends_reading f) w).unique cut, segment, if_neg (show ¬ k = 0 by omega)]
      exact .refl _

theorem offsetRepeated_eq (i : Nat) : d.offsetRepeated i = (d.segment i).offset := by
  unfold offsetRepeated segment
  rw [table.before]
  split <;> rfl

/-- A reading is shown for the second time after a change if the segment before has shown it. -/
theorem fold_eq {t : Int} {k : Nat} (cut : Cut d.instant t d.size k) :
    (d.ofUtc t).2 = if 0 < k ∧ t - d.instant (k - 1) < (d.segment (k - 1)).offset - (d.segment k).offset
      then .second else .first := by
  have some := table.nonempty
  unfold ofUtc
  rw [if_neg (by omega)]
  split
  · rename_i early
    rw [cut.eq_zero early, if_neg (by omega)]
  · rename_i notEarly
    dsimp only
    split
    · rename_i late
      rw [cut.eq_all (Int.le_of_lt late)]
      simp only [decide_eq_true_eq, (alike_after table t).1.1, (alike_after table t).2.1,
        offsetRepeated_eq table, some, true_and]
    · have pos := cut.pos some (by omega)
      have own : (d.type (k - 1)).offset = (d.segment k).offset := by
        rw [segment, if_neg (show ¬ k = 0 by omega)]
      rw [(cut_upperBound table.ascends_instant t).unique cut]
      simp only [decide_eq_true_eq, offsetRepeated_eq table, own, pos, true_and]

/-- A second falls into the segment between the changes next to it. -/
theorem cut_instant {t : Int} {k : Nat} (le : k ≤ d.size) (last : 0 < k → d.instant (k - 1) ≤ t)
    (next : k < d.size → t < d.instant k) : (d.clock t).Alike (d.segment k) :=
  clock_alike table (table.ascends_instant.cut le last next)

/-- Two neighbouring windows of a table, by the segments on either side. -/
theorem windows_apart (i : Nat) (hi : i + 1 < d.size) :
    d.instant i + max (d.segment i).offset (d.segment (i + 1)).offset ≤
      d.instant (i + 1) + min (d.segment (i + 1)).offset (d.segment (i + 1 + 1)).offset := by
  have := table.apart i hi
  rwa [windowEnd_eq, windowStart_eq] at this

/-- A window that has ended has begun, and all but one that have begun have ended. -/
theorem cuts_neighbour {w : Int} {k l : Nat} (ends : Cut (d.reading .first) w d.size k)
    (starts : Cut (d.reading .second) w d.size l) : k ≤ l ∧ l ≤ k + 1 := by
  have hk := ends.le; have hl := starts.le
  constructor
  · by_cases h : l < k
    · have ended := ends.below l h
      have notBegun := starts.next (by omega)
      rw [reading_first] at ended
      rw [reading_second] at notBegun
      omega
    · omega
  · by_cases h : k + 1 < l
    · have begun := starts.below (k + 1) h
      have notEnded := ends.next (by omega)
      have := windows_apart table k (by omega)
      rw [reading_second] at begun
      rw [reading_first] at notEnded
      omega
    · omega

/-- A second that shows a reading falls into a segment that one of the lookups answers. -/
theorem segment_of_shows {w t : Int} {k l : Nat} (ends : Cut (d.reading .first) w d.size k)
    (starts : Cut (d.reading .second) w d.size l) (shows : d.clock.Shows w t) :
    ∃ j, (j = k ∨ j = l) ∧ Cut d.instant t d.size j ∧ t + (d.segment j).offset = w := by
  have cut := cut_upperBound table.ascends_instant t
  generalize upperBound d.instant t 0 d.size = j at cut
  have off := (clock_alike table cut).1
  have le := cut.le
  unfold Timeline.Shows at shows
  -- the reading is not before the window of the last change, nor after that of the next one
  have notAfter : j ≤ l := by
    by_cases h : l < j
    · have last := cut.last (by omega)
      have := starts.above (j - 1) (by omega) (by omega)
      rw [reading_second, show j - 1 + 1 = j by omega] at this
      omega
    · omega
  have notBefore : k ≤ j := by
    by_cases h : j < k
    · have hk := ends.le
      have next := cut.next (by omega)
      have := ends.below j h
      rw [reading_first] at this
      omega
    · omega
  have := (cuts_neighbour table ends starts).2
  exact ⟨j, by omega, cut, by omega⟩

theorem confirms_segment {w : Int} {k : Nat} {guess : LocalType} (alike : guess.Alike (d.segment k))
    (le : k ≤ d.size) (last : 0 < k → d.instant (k - 1) + (d.segment k).offset ≤ w)
    (next : k < d.size → w < d.instant k + (d.segment k).offset) : d.clock.Confirms w guess := by
  intro _
  rw [alike.1]
  refine LocalType.Alike.trans ?_ alike.symm
  refine cut_instant table le (fun pos => ?_) (fun less => ?_)
  · have := last pos; omega
  · have := next less; omega

/-- A reading in no window is shown once, in the segment between the last window and the next one. -/
theorem sighting_between {w : Int} {k : Nat} (ends : Cut (d.reading .first) w d.size k)
    (starts : Cut (d.reading .second) w d.size k) :
    Sighting d.clock w (d.ofLocal w .first) (d.ofLocal w .second) := by
  have early := ofLocal_alike table ends
  have late := ofLocal_alike table starts
  refine .once (early.trans late.symm) (fun t _ shows => ?_) ?_
  · obtain ⟨j, hj, _, at_⟩ := segment_of_shows table ends starts shows
    rw [show j = k by omega] at at_
    rw [early.1]; omega
  · refine confirms_segment table early ends.le (fun pos => ?_) (fun less => ?_)
    · have := ends.last pos
      rw [reading_first, show k - 1 + 1 = k by omega] at this; omega
    · have := starts.next less
      rw [reading_second] at this; omega

/-- A reading in a window is skipped if the clock is put forward there, and shown on either side of the
change if it is put back. -/
theorem sighting_within {w : Int} {k : Nat} (ends : Cut (d.reading .first) w d.size k)
    (starts : Cut (d.reading .second) w d.size (k + 1)) :
    Sighting d.clock w (d.ofLocal w .first) (d.ofLocal w .second) := by
  have early := ofLocal_alike table ends
  have late := ofLocal_alike table starts
  have le := starts.le
  have begun := starts.last (by omega)
  have notEnded := ends.next (by omega)
  rw [Nat.add_sub_cancel, reading_second] at begun
  rw [reading_first] at notEnded
  -- the reading is tried by the segments on either side of the change
  rcases Int.lt_trichotomy (d.segment k).offset (d.segment (k + 1)).offset with gap | same | overlap
  · refine .never fun t _ shows => ?_
    obtain ⟨j, rfl | rfl, cut, at_⟩ := segment_of_shows table ends starts shows
    · have := cut.next (by omega); omega
    · have := cut.below k (by omega); omega
  · omega
  · refine .twice (by rw [early.1, late.1]; exact overlap) (fun t _ shows => ?_) ?_ ?_
    · rw [early.1, late.1]
      obtain ⟨j, rfl | rfl, _, at_⟩ := segment_of_shows table ends starts shows
      · left; omega
      · right; omega
    · refine confirms_segment table early ends.le (fun pos => ?_) (fun _ => by omega)
      have := ends.last pos
      rw [reading_first, show k - 1 + 1 = k by omega] at this; omega
    · refine confirms_segment table late le (fun _ => ?_) (fun less => ?_)
      · show d.instant k + _ ≤ w
        omega
      · have := windows_apart table k less; omega

/-- Both guesses at a reading of a table are worth what they should be. -/
theorem IsTable.sighting (w : Int) : Sighting d.clock w (d.ofLocal w .first) (d.ofLocal w .second) := by
  have ends := cut_upperBound (table.ascends_reading .first) w
  have starts := cut_upperBound (table.ascends_reading .second) w
  generalize upperBound (d.reading .first) w 0 d.size = k at ends
  generalize upperBound (d.reading .second) w 0 d.size = l at starts
  obtain ⟨least, most⟩ := cuts_neighbour table ends starts
  rcases (show l = k ∨ l = k + 1 by omega) with rfl | rfl
  · exact sighting_between table ends starts
  · exact sighting_within table ends starts

/-- The reading of a second leads back to the segment that the second falls into. -/
theorem IsTable.reread (t : Int) : (d.ofLocal (t + (d.clock t).offset) (d.ofUtc t).2).Alike (d.clock t) := by
  have cut := cut_upperBound table.ascends_instant t
  generalize upperBound d.instant t 0 d.size = k at cut
  have own := clock_alike table cut
  have le := cut.le
  rw [own.1, fold_eq table cut]
  refine LocalType.Alike.trans ?_ own.symm
  -- the reading is a repeated one just if it is in the window of the last change
  split
  · rename_i again
    obtain ⟨pos, again⟩ := again
    refine ofLocal_alike table ((table.ascends_reading .second).cut le (fun _ => ?_) (fun less => ?_))
    · have := cut.last pos
      rw [reading_second, show k - 1 + 1 = k by omega]; omega
    · have apart := windows_apart table (k - 1) (by omega)
      rw [show k - 1 + 1 = k by omega] at apart
      rw [reading_second]; omega
  · rename_i notAgain
    refine ofLocal_alike table ((table.ascends_reading .first).cut le (fun pos => ?_) (fun less => ?_))
    · have := cut.last pos
      rw [reading_first, show k - 1 + 1 = k by omega]; omega
    · have := cut.next less
      rw [reading_first]; omega

theorem IsTable.faithful : d.Faithful where
  sighting w _ := table.sighting w
  reread t _ _ := table.reread t

end Lookups

/-! ## The recorded timeline -/

/-- Where the values that pass a test stand before those that do not, they are the first ones. -/
theorem filter_eq_take {α : Type} {l : List α} {p : α → Bool} {k : Nat}
    (below : ∀ i (h : i < l.length), i < k → p l[i] = true) (above : ∀ i (h : i < l.length), k ≤ i → p l[i] = false) :
    l.filter p = l.take k := by
  have kept : (l.take k).filter p = l.take k := by
    refine List.filter_eq_self.mpr fun a ha => ?_
    obtain ⟨i, hi, rfl⟩ := List.mem_take_iff_getElem.mp ha
    exact below i (by omega) (by omega)
  have dropped : (l.drop k).filter p = [] := by
    refine List.filter_eq_nil_iff.mpr fun a ha => ?_
    obtain ⟨i, hi, rfl⟩ := List.mem_drop_iff_getElem.mp ha
    simp [above (k + i) (by omega) (by omega)]
  calc l.filter p = (l.take k ++ l.drop k).filter p := by rw [List.take_append_drop]
    _ = l.take k := by rw [List.filter_append, kept, dropped, List.append_nil]

variable {d : RegionData}

theorem transition_eq (i : Nat) (h : i < d.transitions.toList.length) :
    d.transitions.toList[i].instant = d.instant i ∧ d.transitions.toList[i].type = d.type i := by
  have h' : i < d.transitions.size := by simpa using h
  simp [instant, type, h']

/-- The last change up to a second begins the segment that the second falls into. -/
theorem recorded_eq {t : Int} {k : Nat} (cut : Cut d.instant t d.size k) : d.recorded t = d.segment k := by
  have len : d.transitions.toList.length = d.size := Array.length_toList
  have kept : (d.transitions.toList.filter fun c => c.instant ≤ t) = d.transitions.toList.take k := by
    refine filter_eq_take (fun i hi less => ?_) (fun i hi more => ?_)
    · rw [(transition_eq i hi).1]
      exact decide_eq_true (cut.below i less)
    · rw [(transition_eq i hi).1]
      exact decide_eq_false (Int.not_le.mpr (cut.above i more (by omega)))
  unfold recorded segment
  rw [kept, List.getLast?_take]
  split
  · rfl
  · have le := cut.le
    have hi : k - 1 < d.transitions.toList.length := by omega
    rw [List.getElem?_eq_getElem hi, ← (transition_eq (k - 1) hi).2]
    rfl

theorem IsTable.clock_alike_recorded (table : d.IsTable) (t : Int) : (d.clock t).Alike (d.recorded t) := by
  have cut := cut_upperBound table.ascends_instant t
  rw [recorded_eq cut]
  exact clock_alike table cut

theorem ListsBelowDay.segment (below : d.ListsBelowDay) {k : Nat} (le : k ≤ d.size) : (d.segment k).BelowDay := by
  unfold RegionData.segment
  split
  · exact below.first
  · exact below.types _ (by omega)

theorem IsTable.findsBelowDay (table : d.IsTable) (below : d.ListsBelowDay) : d.FindsBelowDay where
  clock t := by
    have cut := cut_upperBound table.ascends_instant t
    exact (clock_alike table cut).belowDay (below.segment cut.le)
  ofLocal w f := by
    have cut := cut_upperBound (table.ascends_reading f) w
    exact (ofLocal_alike table cut).belowDay (below.segment cut.le)

end RegionData

/-- A reading of a table resolves to the seconds at which the recorded timeline shows it. -/
theorem resolve_table_inverseImage (w : World) (r : Region) (x : CivilDateTime) (table : r.data.IsTable)
    (below : r.data.ListsBelowDay) (inside : x.Inside 172800) :
    InverseImage r.data.recorded r.key x ((Zone.region r).resolve w x).result := by
  have near : x.Inside 86400 := by
    unfold CivilDateTime.Inside at *; omega
  have exhausts := Region.resolve_exhausts w table.faithful (table.findsBelowDay below) near
  have alike := table.clock_alike_recorded
  refine (exhausts.mono (fun t => (Timeline.Shows.congr (alike t)).symm) fun m hm => ?_).inverseImage
  exact ⟨hm.reads, (Timeline.Shows.congr (alike _)).mp hm.shows, hm.state.congr (alike _)⟩

/-- Central European time and one summer: changes on 2023-03-26 and 2023-10-29, at 01:00 UTC. -/
def summer2023 : Region where
  key := "Europe/Amsterdam"
  data :=
    { first := ⟨3600, false, "CET"⟩
      before := ⟨3600, false, "CET"⟩
      transitions := #[⟨1679792400, ⟨7200, true, "CEST"⟩⟩, ⟨1698541200, ⟨3600, false, "CET"⟩⟩]
      after := .fixed "CET" 3600 }

def summerWorld : World := ⟨.fixed "UTC" 0, [(summer2023.key, summer2023.data)], .constant none none none none⟩

theorem isTable_summer2023 : summer2023.data.IsTable where
  listed := ⟨[⟨3600, false, "CET"⟩, ⟨7200, true, "CEST"⟩], [(1679792400, 1), (1698541200, 0)], rfl⟩
  nonempty := by decide
  standardFirst := rfl
  ascending i hi := by
    have : i = 0 := by change i + 1 < 2 at hi; omega
    subst this; decide
  apart i hi := by
    have : i = 0 := by change i + 1 < 2 at hi; omega
    subst this; decide

theorem listsBelowDay_summer2023 : summer2023.data.ListsBelowDay where
  first := by decide
  types i hi := by
    have : i = 0 ∨ i = 1 := by change i < 2 at hi; omega
    rcases this with rfl | rfl <;> decide

def Offset.hourAhead : Offset := ⟨3600, by decide, by decide⟩

/-- The reading 2023-10-29 02:30:00, which was shown twice. -/
def secondHourOfAutumn : CivilDateTime where
  date := ⟨738822, by decide, by decide⟩
  time := { ClockTime.midnight with secondOfDay := 9000, second_nonneg := by decide, second_lt := by decide }

theorem resolve_secondHourOfAutumn :
    summer2023.data.IsTable ∧ summer2023.data.ListsBelowDay ∧ secondHourOfAutumn.Inside 172800 ∧
      InverseImage summer2023.data.recorded "Europe/Amsterdam" secondHourOfAutumn
        ((Zone.region summer2023).resolve summerWorld secondHourOfAutumn).result :=
  ⟨isTable_summer2023, listsBelowDay_summer2023, by decide,
    resolve_table_inverseImage _ summer2023 _ isTable_summer2023 listsBelowDay_summer2023 (by decide)⟩

end CivilTime
