/-
  CivilTime.Proofs.Sorting — sorting rearranges.

  Whatever the comparisons answer, a sort that ends gives back the values that it was given, each as
  often (`sort_perm`). Every part of it moves values from one place to another: a run is turned or
  filled up, a merge carries values from two lists to a third one (`Merging.all`).
-/

import CivilTime.Value.Order

namespace CivilTime

namespace Sorting

variable {ε α : Type} {less : α → α → Except ε Bool}

/-! ## Merges -/

namespace Merging

def all (m : Merging α) : List α := m.left ++ m.right ++ m.placed

theorem result_perm (e : End) (m : Merging α) : (m.result e).Perm m.all := by
  classical
  rw [List.perm_iff_count]
  intro a
  cases e <;> simp [result, all] <;> omega

theorem takeLeft_perm (n : Nat) (m : Merging α) : (takeLeft n m).all.Perm m.all := by
  classical
  rw [List.perm_iff_count]
  intro a
  have split := congrArg (List.count a) (List.take_append_drop n m.left)
  simp only [List.count_append] at split
  simp [takeLeft, all]
  omega

theorem takeRight_perm (n : Nat) (m : Merging α) : (takeRight n m).all.Perm m.all := by
  classical
  rw [List.perm_iff_count]
  intro a
  have split := congrArg (List.count a) (List.take_append_drop n m.right)
  simp only [List.count_append] at split
  simp [takeRight, all]
  omega

theorem perm_of_done {e : End} {bar bar' : Nat} {m m' : Merging α} {out : List α}
    (h : (pure (bar, m.result e) : Except ε (Nat × List α)) = .ok (bar', out)) (hm : m.all.Perm m'.all) :
    out.Perm m'.all := by
  cases h
  exact (result_perm e m).trans hm

/-- A merge ends with the values that it began with. -/
theorem finish_perm {e : End} {bar bar' : Nat} {pace : Pace} {m : Merging α} {out : List α}
    (h : finish less e bar pace m = .ok (bar', out)) : out.Perm m.all := by
  fun_induction finish less e bar pace m with
  | case1 => exact perm_of_done h (.refl _)
  | case4 => exact perm_of_done h (.refl _)
  | case2 bar l ls r rs placed ofRight row _ ihRight ihLeft =>
    obtain ⟨first, -, h⟩ := except_bind_eq_ok.mp h
    dsimp only at h
    split at h
    · exact (ihRight first h).trans (takeRight_perm 1 ⟨l :: ls, r :: rs, placed⟩)
    · exact (ihLeft first h).trans (takeLeft_perm 1 ⟨l :: ls, r :: rs, placed⟩)
  | case3 bar l ls r rs placed _ ihLong ihShort =>
    -- the four moves of a gallop keep the values, and it may be over after each of them
    obtain ⟨i, -, h⟩ := except_bind_eq_ok.mp h
    dsimp only at h
    have one := takeLeft_perm i ⟨l :: ls, r :: rs, placed⟩
    split at h
    · exact perm_of_done h one
    split at h
    · exact perm_of_done h one
    have two := (takeRight_perm 1 _).trans one
    split at h
    · exact perm_of_done h two
    obtain ⟨j, -, h⟩ := except_bind_eq_ok.mp h
    have three := (takeRight_perm j _).trans two
    split at h
    · exact perm_of_done h three
    have four := (takeLeft_perm 1 _).trans three
    split at h
    · exact perm_of_done h four
    split at h
    · exact (ihLong i j h).trans four
    · exact (ihShort i j h).trans four

end Merging

/-- What stays out of a merge at either side goes back to its side. -/
theorem framed_perm {left right merged : List α} (i j : Nat) (h : merged.Perm (left.drop i ++ right.take j)) :
    (left.take i ++ merged ++ right.drop j).Perm (left ++ right) := by
  have middle := (h.append_left (left.take i)).append_right (right.drop j)
  have whole : left.take i ++ (left.drop i ++ right.take j) ++ right.drop j = left ++ right := by
    rw [← List.append_assoc, List.take_append_drop, List.append_assoc, List.take_append_drop]
  rwa [whole] at middle

/-- Merging two lists gives the values of both. -/
theorem merge_perm {bar bar' : Nat} {left right out : List α} (h : merge less bar left right = .ok (bar', out)) :
    out.Perm (left ++ right) := by
  unfold merge at h
  split at h
  · obtain ⟨skip, -, h⟩ := except_bind_eq_ok.mp h
    simp only [List.splitAt_eq] at h
    split at h
    · obtain ⟨count, -, h⟩ := except_bind_eq_ok.mp h
      split at h
      · obtain ⟨⟨_, merged⟩, finished, h⟩ := except_bind_eq_ok.mp h
        cases h
        refine framed_perm skip count ((Merging.finish_perm finished).trans ?_)
        exact (Merging.takeRight_perm 1 _).trans (by simp [Merging.all])
      · obtain ⟨⟨_, merged⟩, finished, h⟩ := except_bind_eq_ok.mp h
        cases h
        refine framed_perm skip count ((Merging.finish_perm finished).trans ?_)
        refine (Merging.takeLeft_perm 1 _).trans ?_
        simpa [Merging.all] using (List.reverse_perm _).append (List.reverse_perm _)
    · rename_i none
      cases h
      -- the left list is in place as a whole
      have used : left.drop skip = [] :=
        List.getLast?_eq_none_iff.mp (Option.eq_none_iff_forall_ne_some.mpr none)
      have whole := List.take_append_drop skip left
      rw [used, List.append_nil] at whole
      rw [whole]
  · rename_i none
    cases h
    have empty : right = [] := List.head?_eq_none_iff.mp (Option.eq_none_iff_forall_ne_some.mpr none)
    rw [empty, List.append_nil]

/-! ## Runs -/

theorem insertBehind_perm {run out : List α} {a : α} (h : insertBehind less run a = .ok out) :
    out.Perm (run ++ [a]) := by
  obtain ⟨i, -, h⟩ := except_bind_eq_ok.mp h
  cases h
  refine List.perm_middle.trans ?_
  rw [List.take_append_drop]
  exact (List.perm_append_singleton a run).symm

theorem fill_perm {more run out : List α} (h : more.foldlM (insertBehind less) run = .ok out) :
    out.Perm (run ++ more) := by
  induction more generalizing run with
  | nil => cases h; simp
  | cons a more ih =>
    obtain ⟨run', hrun, h⟩ := except_bind_eq_ok.mp h
    have inserted := insertBehind_perm hrun
    have := (ih h).trans (inserted.append_right more)
    simpa using this

namespace Waiting

def all (w : Waiting α) : List α := w.below.flatMap Prod.fst ++ w.top

theorem settle_perm {d bar : Nat} {top : List α} {below : List (List α × Nat)} {w : Waiting α}
    (h : settle less d bar top below = .ok w) : w.all.Perm (below.flatMap Prod.fst ++ top) := by
  induction below generalizing bar top with
  | nil => cases h; exact .refl _
  | cons next below ih =>
    obtain ⟨run, deep⟩ := next
    unfold settle at h
    split at h
    · obtain ⟨⟨bar', joined⟩, merged, h⟩ := except_bind_eq_ok.mp h
      refine (ih h).trans (((merge_perm merged).append_left _).trans ?_)
      have turned : (below.flatMap Prod.fst ++ run).Perm (run ++ below.flatMap Prod.fst) := List.perm_append_comm
      simpa using turned.append_right top
    · cases h; exact .refl _

theorem push_perm {n : Nat} {w w' : Waiting α} {run : List α} (h : w.push less n run = .ok w') :
    w'.all.Perm (w.all ++ run) := by
  obtain ⟨settled, hsettled, h⟩ := except_bind_eq_ok.mp h
  have kept := settle_perm hsettled
  cases h
  have turned : (settled.top ++ settled.below.flatMap Prod.fst).Perm settled.all := List.perm_append_comm
  simpa [all] using (turned.trans kept).append_right run

theorem collapse_perm {bar : Nat} {top : List α} {below : List (List α × Nat)} {out : List α}
    (h : collapse less bar top below = .ok out) : out.Perm (below.flatMap Prod.fst ++ top) := by
  fun_induction collapse less bar top below with
  | case1 => cases h; exact .refl _
  | case2 bar top run deep =>
    obtain ⟨⟨bar', merged⟩, hmerged, h⟩ := except_bind_eq_ok.mp h
    cases h
    simpa using merge_perm hmerged
  | case3 bar top run d before deep below _ ih =>
    obtain ⟨⟨bar', joined⟩, hjoined, h⟩ := except_bind_eq_ok.mp h
    refine (ih bar' joined h).trans ?_
    have turned := (merge_perm hjoined).trans List.perm_append_comm
    simpa using turned.append_right (below.flatMap Prod.fst ++ top)
  | case4 bar top run d before deep below _ ih =>
    obtain ⟨⟨bar', joined⟩, hjoined, h⟩ := except_bind_eq_ok.mp h
    refine (ih bar' joined h).trans (((merge_perm hjoined).append_left _).trans ?_)
    have turned : (before ++ below.flatMap Prod.fst ++ run).Perm (run ++ (before ++ below.flatMap Prod.fst)) :=
      List.perm_append_comm
    simpa using turned.append_right top

end Waiting

/-! ## Sorting -/

def waiting : Option (Waiting α) → List α
  | some w => w.all
  | none => []

/-- A run that is filled up leaves over what comes after it. -/
theorem filled_perm {a : α} {as run : List α} {falling : Bool} {more missing : Nat}
    (h : ((as.drop more).take missing).foldlM (insertBehind less)
      (if falling then (a :: as.take more).reverse else a :: as.take more) = .ok run) :
    (run ++ as.drop (more + missing)).Perm (a :: as) := by
  have turned : (if falling then (a :: as.take more).reverse else a :: as.take more).Perm (a :: as.take more) := by
    split
    · exact List.reverse_perm _
    · exact .refl _
  have filled := ((fill_perm h).trans (turned.append_right _)).append_right (as.drop (more + missing))
  have whole : a :: as.take more ++ (as.drop more).take missing ++ as.drop (more + missing) = a :: as := by
    rw [List.append_assoc, ← List.drop_drop, List.take_append_drop, List.cons_append, List.take_append_drop]
  rwa [whole] at filled

theorem takeRuns_perm {n : Nat} {w w' : Option (Waiting α)} {as : List α}
    (h : takeRuns less n w as = .ok w') : (waiting w').Perm (waiting w ++ as) := by
  fun_induction takeRuns less n w as with
  | case1 => cases h; simp
  | case2 w a as ih =>
    obtain ⟨⟨falling, more⟩, -, h⟩ := except_bind_eq_ok.mp h
    obtain ⟨run, filled, h⟩ := except_bind_eq_ok.mp h
    have taken := filled_perm filled
    cases w with
    | none =>
      have := ih more _ h
      refine this.trans ?_
      simpa [waiting, Waiting.all] using taken
    | some w =>
      obtain ⟨pushed, hpushed, h⟩ := except_bind_eq_ok.mp h
      refine (ih more pushed h).trans ?_
      have joined := (Waiting.push_perm hpushed).append_right (as.drop (more + (runLength n - (a :: as.take more).length)))
      rw [List.append_assoc] at joined
      exact joined.trans (taken.append_left _)

/-- Sorting gives back the values that it was given, each as often. -/
theorem sort_perm {as out : List α} (h : sort less as = .ok out) : out.Perm as := by
  obtain ⟨w, found, h⟩ := except_bind_eq_ok.mp h
  have taken := takeRuns_perm found
  cases w with
  | none =>
    cases h
    exact taken
  | some w => exact (Waiting.collapse_perm h).trans taken

end Sorting

theorem Value.sorted_perm {vs out : List Value} (h : sorted vs = .ok out) : out.Perm vs := by
  unfold sorted at h
  split at h
  · cases h
    exact List.mergeSort_perm vs _
  · exact Sorting.sort_perm h

end CivilTime
