/-
  CivilTime.Proofs.Lexicographic — lists compared place by place.

  The first places that differ decide, and a list that ends before any do comes first. So lists that begin
  with equally many places are compared by these and only then by the rest (`compare_append`), and what
  `compare` answers for lists is their order by `<` (`compare_lt_iff`), if it is so for the places.
-/

namespace CivilTime.Lexicographic

variable {α : Type} [Ord α]

/-- Lists that begin with equally many places are compared by these first. -/
theorem compare_append {as bs : List α} (same : as.length = bs.length) (cs ds : List α) :
    compare (as ++ cs) (bs ++ ds) = (compare as bs).then (compare cs ds) := by
  induction as generalizing bs with
  | nil =>
    cases bs with
    | nil => rfl
    | cons b bs => cases same
  | cons a as ih =>
    cases bs with
    | nil => cases same
    | cons b bs =>
      rw [List.cons_append, List.cons_append, List.compare_cons_cons, List.compare_cons_cons,
        ih (Nat.succ.inj same), Ordering.then_assoc]

/-- The answer that a list comes first is its being less, if it is so for the places. -/
theorem compare_lt_iff [LT α] [Std.LawfulEqOrd α] (less : ∀ a b : α, compare a b = .lt ↔ a < b) (as bs : List α) :
    compare as bs = .lt ↔ as < bs := by
  induction as generalizing bs with
  | nil => cases bs <;> simp
  | cons a as ih =>
    cases bs with
    | nil => simp
    | cons b bs =>
      rw [List.compare_cons_cons, Ordering.then_eq_lt, List.cons_lt_cons_iff, less, Std.compare_eq_iff_eq, ih]

theorem compare_ints_lt_iff (as bs : List Int) : compare as bs = .lt ↔ as < bs :=
  compare_lt_iff (fun _ _ => Int.compare_eq_lt) as bs

theorem compare_ints_gt_iff (as bs : List Int) : compare as bs = .gt ↔ bs < as :=
  Std.OrientedCmp.gt_iff_lt.trans (compare_ints_lt_iff bs as)

theorem compare_chars_lt_iff (as bs : List Char) : compare as bs = .lt ↔ as < bs :=
  compare_lt_iff (fun _ _ => compareOfLessAndEq_eq_lt) as bs

end CivilTime.Lexicographic
