/-
  CivilTime.Proofs.Region.Bounds — records in which every offset is less than a day.

  Whatever the order of the changes and the rule after them, a lookup answers a kind of local time that
  stands in the records, and these hold what they were made of (`mem_of_ofTable?`). So no lookup finds
  an offset of a day or more if none was recorded (`BelowDay.findsBelowDay`).
-/

import CivilTime.Proofs.Region.Season
import CivilTime.Proofs.Region.Table

namespace CivilTime

/-- What an action on a list has made comes from members of the list. -/
theorem mem_of_mapM {α β : Type} {f : α → Option β} {as : List α} {bs : List β} (h : as.mapM f = some bs) {b : β}
    (hb : b ∈ bs) : ∃ a ∈ as, f a = some b := by
  induction as generalizing bs with
  | nil => cases h; cases hb
  | cons a as ih =>
    rw [List.mapM_cons] at h
    simp only [Option.bind_eq_bind, Option.bind_eq_some_iff, Option.pure_def, Option.some.injEq] at h
    obtain ⟨c, hc, cs, hcs, rfl⟩ := h
    rcases List.mem_cons.mp hb with rfl | hb
    · exact ⟨a, List.mem_cons_self, hc⟩
    · obtain ⟨a', ha', h'⟩ := ih hcs hb
      exact ⟨a', List.mem_cons_of_mem _ ha', h'⟩

/-- The search does not go beyond its end. -/
theorem upperBound_le {f : Nat → Int} {v : Int} {lo hi : Nat} (le : lo ≤ hi) : upperBound f v lo hi ≤ hi := by
  fun_induction upperBound f v lo hi with
  | case1 lo hi less mid more ih =>
    have := ih (by omega)
    omega
  | case2 lo hi less mid more ih => exact ih (by omega)
  | case3 lo hi more => exact Nat.le_refl hi

theorem ZoneRule.belowDay_fixed {t : LocalType} (below : t.BelowDay) : (ZoneRule.fixed t.name t.offset).BelowDay where
  standard := below
  daylight d hd := by cases hd

namespace RegionData

variable {d : RegionData}

/-- All kinds of local time in the records come from the list that they were made of, and so does that of
the time after the last change, if no rule was given for it. -/
theorem mem_of_ofTable? {types : List LocalType} {changes : List (Int × Nat)} {rule : Option ZoneRule}
    (h : ofTable? types changes rule = some d) :
    d.first ∈ types ∧ d.before ∈ types ∧ (∀ i, i < d.size → d.type i ∈ types) ∧
      ∃ t ∈ types, d.after = rule.getD (.fixed t.name t.offset) := by
  simp only [ofTable?, Option.bind_eq_bind, Option.bind_eq_some_iff, Option.pure_def, Option.some.injEq] at h
  obtain ⟨head, first, last, final, transitions, changed, rfl⟩ := h
  have known (c : Transition) (hc : c ∈ transitions) : c.type ∈ types := by
    obtain ⟨change, -, made⟩ := mem_of_mapM changed hc
    obtain ⟨t, ht, rfl⟩ := Option.map_eq_some_iff.mp made
    exact List.mem_of_getElem? ht
  have mem := List.mem_of_head? first
  refine ⟨mem, ?_, fun i hi => ?_, ?_⟩
  · cases standard : types.find? (!·.isDaylight) with
    | none => simpa [standard] using mem
    | some t => simpa [standard] using List.mem_of_find?_eq_some standard
  · have less : i < transitions.length := hi
    refine known _ ?_
    simp [less]
  · cases latest : transitions.getLast? with
    | none => exact ⟨last, List.mem_of_getLast? final, by simp⟩
    | some c => exact ⟨c.type, known c (List.mem_of_getLast? latest), by simp⟩

structure BelowDay (d : RegionData) : Prop where
  lists : d.ListsBelowDay
  before : d.before.BelowDay
  after : d.after.BelowDay

theorem belowDay_of_ofTable? {types : List LocalType} {changes : List (Int × Nat)} {rule : Option ZoneRule}
    (h : ofTable? types changes rule = some d) (below : ∀ t ∈ types, t.BelowDay)
    (belowAfter : ∀ r, rule = some r → r.BelowDay) : d.BelowDay := by
  obtain ⟨first, before, changed, t, ht, after⟩ := mem_of_ofTable? h
  refine ⟨⟨below _ first, fun i hi => below _ (changed i hi)⟩, below _ before, ?_⟩
  rw [after]
  cases rule with
  | none => exact ZoneRule.belowDay_fixed (below t ht)
  | some r => exact belowAfter r rfl

theorem BelowDay.findsBelowDay (below : d.BelowDay) : d.FindsBelowDay where
  clock t := by
    have found := upperBound_le (f := d.instant) (v := t) (Nat.zero_le d.size)
    unfold RegionData.clock ofUtc
    split
    · rw [ZoneRule.ofUtc_eq_inForce]
      exact below.after.inForce t
    · split
      · exact below.before
      · dsimp only
        split
        · show (d.after.ofUtc t).1.BelowDay
          rw [ZoneRule.ofUtc_eq_inForce]
          exact below.after.inForce t
        · exact below.lists.types _ (by omega)
  ofLocal w f := by
    have found := upperBound_le (f := d.reading f) (v := w) (Nat.zero_le d.size)
    unfold ofLocal
    split
    · exact below.after.ofLocal w f
    · split
      · exact below.before
      · split
        · exact below.after.ofLocal w f
        · exact below.lists.types _ (by omega)

end RegionData

end CivilTime
