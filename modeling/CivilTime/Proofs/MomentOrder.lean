/-
  CivilTime.Proofs.MomentOrder — moments follow one another, whatever their zones.

  (1) A moment has a place among all moments: the count of its second, and the nanosecond in it (`ZonedDateTime.place`).
  The comparisons of two moments are those of their places, field by field (`comparisons_moment`).

  (2) A conversion to another zone or to a fixed offset keeps the reading in UTC (`Conversion.utc_apply`), so by
  induction any sequence of them does (`utc_convert`).

  (3) A list of moments is sorted by places alone (`sorted_moments`). So it makes no difference whether it is sorted
  before its moments are converted or afterwards (`sortsAs_of_convertsTo`).

  Main statement: `moments_follow_place`.
-/

import CivilTime.Proofs.FinerCounts
import CivilTime.Proofs.Lexicographic
import CivilTime.Value.Order

namespace CivilTime

open Lexicographic

/-! ## (1) Places -/

namespace ZonedDateTime

/-- Where a moment stands among all moments: its second, and then the nanosecond. -/
def place (m : ZonedDateTime) : List Int := [m.utc.timestamp, m.utc.time.nanosecond]

variable {a b : ZonedDateTime}

theorem compare_utc (a b : ZonedDateTime) : a.utc.compare b.utc = compare a.place b.place :=
  CivilDateTime.compare_eq a.utc b.utc

/-- Every place has one reading in UTC. -/
theorem utc_eq_iff : a.utc = b.utc ↔ a.place = b.place := by
  constructor
  · intro same
    rw [place, place, same]
  · intro same
    simp only [place, List.cons.injEq, and_true] at same
    exact CivilDateTime.ext_timestamp same.1 same.2

/-- Of two places one comes first, unless they are the same. -/
theorem place_trichotomy (a b : ZonedDateTime) :
    (a.place < b.place ∧ a.place ≠ b.place ∧ ¬ b.place < a.place) ∨
      (¬ a.place < b.place ∧ a.place = b.place ∧ ¬ b.place < a.place) ∨
      (¬ a.place < b.place ∧ a.place ≠ b.place ∧ b.place < a.place) := by
  have same : compare a.place b.place = .eq ↔ a.place = b.place := Std.compare_eq_iff_eq
  rw [← compare_ints_lt_iff, ← compare_ints_gt_iff, ne_eq, ← same]
  cases compare a.place b.place <;> decide

end ZonedDateTime

namespace Value

theorem same_moment (a b : ZonedDateTime) : same (moment a) (moment b) = decide (a.place = b.place) := by
  rw [same, Bool.eq_iff_iff, beq_iff_eq, decide_eq_true_iff, ZonedDateTime.utc_eq_iff]

theorem order_moment (a b : ZonedDateTime) : order (moment a) (moment b) = .ok (compare a.place b.place) := by
  rw [← ZonedDateTime.compare_utc, order]
  rfl

/-- The six comparisons of moments are those of their places. -/
theorem comparisons_moment (a b : ZonedDateTime) : (moment a).comparisons (moment b) =
    [flag (a.place = b.place), flag (a.place ≠ b.place), flag (a.place < b.place),
      flag (a.place < b.place ∨ a.place = b.place), flag (b.place < a.place),
      flag (b.place < a.place ∨ a.place = b.place)] := by
  have less := compare_ints_lt_iff a.place b.place
  have equal : compare a.place b.place = .eq ↔ a.place = b.place := Std.compare_eq_iff_eq
  have more := compare_ints_gt_iff a.place b.place
  simp only [comparisons, same_moment, order_moment, ne_eq, ← less, ← equal, ← more]
  cases compare a.place b.place <;> rfl

end Value

/-! ## (2) Conversions -/

/-- A way to take a moment to another zone: one that is given, or none but the offset that the moment has. -/
inductive Conversion where
  | inZone (w : World) (z : Zone)
  | withFixedOffset

def Conversion.apply (m : ZonedDateTime) : Conversion → Traced ZonedDateTime
  | inZone w z => m.inZone w z
  | withFixedOffset => return m.withFixedOffset

def ZonedDateTime.convert (m : ZonedDateTime) : List Conversion → Traced ZonedDateTime
  | [] => return m
  | c :: cs => do (← c.apply m).convert cs

variable {m n : ZonedDateTime}

/-- No conversion changes the reading in UTC. -/
theorem Conversion.utc_apply {c : Conversion} (h : (c.apply m).result = .ok n) : n.utc = m.utc := by
  cases c with
  | inZone w z =>
    obtain ⟨utc, -⟩ := Zone.momentOfUtc_eq_ok.mp h
    exact utc
  | withFixedOffset =>
    cases h
    rfl

theorem ZonedDateTime.utc_convert {cs : List Conversion} (h : (m.convert cs).result = .ok n) : n.utc = m.utc := by
  induction cs generalizing m with
  | nil =>
    cases h
    rfl
  | cons c cs ih =>
    obtain ⟨between, first, rest⟩ := Traced.result_bind_eq_ok.mp h
    rw [ih rest, Conversion.utc_apply first]

def ZonedDateTime.ConvertsTo (m n : ZonedDateTime) : Prop := ∃ cs, (m.convert cs).result = .ok n

theorem ZonedDateTime.ConvertsTo.utc_eq (h : m.ConvertsTo n) : n.utc = m.utc := by
  obtain ⟨cs, h⟩ := h
  exact utc_convert h

theorem ZonedDateTime.ConvertsTo.place_eq (h : m.ConvertsTo n) : n.place = m.place :=
  ZonedDateTime.utc_eq_iff.mp h.utc_eq

/-! ## (3) Sorting -/

namespace Value

variable {ι : Type}

/-- Moments that stand for other things are sorted as these are. -/
theorem sorted_moments (f : ι → ZonedDateTime) (place : ι → List Int) (ps : List ι)
    (same : ∀ p ∈ ps, (f p).place = place p) : sorted (ps.map fun p => moment (f p)) =
      .ok ((ps.mergeSort fun p q => (compare (place p) (place q)).isLE).map fun p => moment (f p)) := by
  have ordered : (ps.map fun p => moment (f p)).Pairwise Ordered := by
    rw [List.pairwise_map]
    exact List.pairwise_of_forall fun _ _ => rfl
  rw [sorted, if_pos ordered, List.map_mergeSort]
  · rfl
  · intro p hp q hq
    rw [order_moment, same p hp, same q hq]

end Value

/-- Sorting by places puts them in ascending order. -/
theorem pairwise_mergeSort_place {ι : Type} (place : ι → List Int) (ps : List ι) :
    (ps.mergeSort fun p q => (compare (place p) (place q)).isLE).Pairwise
      fun p q => place p < place q ∨ place p = place q := by
  have ascending : (ps.mergeSort fun p q => (compare (place p) (place q)).isLE).Pairwise
      fun p q => (compare (place p) (place q)).isLE := by
    apply List.pairwise_mergeSort
    · intro p q r
      exact Std.TransCmp.isLE_trans
    · intro p q
      have swapped : compare (place q) (place p) = (compare (place p) (place q)).swap := Std.OrientedCmp.eq_swap
      rw [swapped]
      cases compare (place p) (place q) <;> rfl
  refine ascending.imp fun {p q} le => ?_
  rwa [Ordering.isLE_iff_eq_lt_or_eq_eq, compare_ints_lt_iff, Std.compare_eq_iff_eq] at le

/-- How the first moments of pairs, and the second ones, are sorted: both as the pairs of `qs` are, which are in
ascending order. -/
structure SortsAs (ps qs : List (ZonedDateTime × ZonedDateTime)) : Prop where
  perm : qs.Perm ps
  before : Value.sorted (ps.map fun p => .moment p.1) = .ok (qs.map fun q => .moment q.1)
  after : Value.sorted (ps.map fun p => .moment p.2) = .ok (qs.map fun q => .moment q.2)
  ascending : qs.Pairwise fun p q => p.1.place < q.1.place ∨ p.1.place = q.1.place
  sameMoments : qs.map (·.2.utc) = qs.map (·.1.utc)

/-- Moments are in the same order before they are converted and afterwards. -/
theorem sortsAs_of_convertsTo {ps : List (ZonedDateTime × ZonedDateTime)} (converted : ∀ p ∈ ps, p.1.ConvertsTo p.2) :
    SortsAs ps (ps.mergeSort fun p q => (compare p.1.place q.1.place).isLE) where
  perm := List.mergeSort_perm _ _
  before := Value.sorted_moments (·.1) (·.1.place) ps fun _ _ => rfl
  after := Value.sorted_moments (·.2) (·.1.place) ps fun p hp => (converted p hp).place_eq
  ascending := pairwise_mergeSort_place (·.1.place) ps
  sameMoments := by
    apply List.map_congr_left
    intro q hq
    exact (converted q (List.mem_mergeSort.mp hq)).utc_eq

/-! ## Moments follow their places -/

/-- How two moments compare. One of them comes first or they are equal, and their seconds and then their nanoseconds
tell which; outside leap seconds their counts of nanoseconds do. -/
structure FollowPlace (a b : ZonedDateTime) : Prop where
  comparisons : (Value.moment a).comparisons (.moment b) =
    [.flag (a.place = b.place), .flag (a.place ≠ b.place), .flag (a.place < b.place),
      .flag (a.place < b.place ∨ a.place = b.place), .flag (b.place < a.place),
      .flag (b.place < a.place ∨ a.place = b.place)]
  exactlyOne : (a.place < b.place ∧ a.place ≠ b.place ∧ ¬ b.place < a.place) ∨
    (¬ a.place < b.place ∧ a.place = b.place ∧ ¬ b.place < a.place) ∨
    (¬ a.place < b.place ∧ a.place ≠ b.place ∧ b.place < a.place)
  nanos : ¬ a.utc.time.IsLeapSecond → ¬ b.utc.time.IsLeapSecond →
    (a.place < b.place ↔ a.utc.timestampNanos < b.utc.timestampNanos) ∧
      (a.place = b.place ↔ a.utc.timestampNanos = b.utc.timestampNanos)
  converted : ∀ a' b', a.ConvertsTo a' → b.ConvertsTo b' →
    (Value.moment a').comparisons (.moment b') = (Value.moment a).comparisons (.moment b)
  timestamps : ∀ a', a.ConvertsTo a' → a'.utc.timestamp = a.utc.timestamp ∧
    a'.utc.timestampMillis = a.utc.timestampMillis ∧ a'.utc.timestampNanos = a.utc.timestampNanos ∧
    a'.utc.time.nanosecond = a.utc.time.nanosecond

/-- Moments are ordered as their places are, whatever their zones, and stay so when they are converted. A list is
sorted alike before its moments are converted and afterwards. -/
theorem moments_follow_place (a b : ZonedDateTime) (ps : List (ZonedDateTime × ZonedDateTime)) :
    FollowPlace a b ∧ ((∀ p ∈ ps, p.1.ConvertsTo p.2) → ∃ qs, SortsAs ps qs) := by
  constructor
  · constructor
    case comparisons => exact Value.comparisons_moment a b
    case exactlyOne => exact a.place_trichotomy b
    case nanos =>
      intro ha hb
      have same : compare a.place b.place = .eq ↔ a.place = b.place := Std.compare_eq_iff_eq
      rw [← compare_ints_lt_iff, ← same, ← ZonedDateTime.compare_utc, CivilDateTime.compare_eq_timestampNanos ha hb]
      exact ⟨Int.compare_eq_lt, Int.compare_eq_eq⟩
    case converted =>
      intro a' b' ha hb
      rw [Value.comparisons_moment, Value.comparisons_moment, ha.place_eq, hb.place_eq]
    case timestamps =>
      intro a' ha
      rw [ha.utc_eq]
      exact ⟨rfl, rfl, rfl, rfl⟩
  · intro converted
    exact ⟨_, sortsAs_of_convertsTo converted⟩

end CivilTime
