/-
  CivilTime.Proofs.System.Search — what the search for an instant on the system's clock is worth.

  The clock shows one of two offsets, so a reading is shown at one of two instants or at none. The
  search starts from one of them, and looks at the other one if the first does not show the reading
  or if the clock stands otherwise a day aside. Of this, for every rule:
  (1) `instantOf_shows`: the instant found shows the reading, unless none does.
  (2) `offset_of_candidates`: an offset found for a reading is the one in force at the moment that
  the reading is by it.

  A reading that is shown twice may still be found at either of its instants, for either fold. If
  nothing else changes within a day of both, each fold finds its own one (`instantOf_twice`).
-/

import CivilTime.Proofs.Timeline

namespace CivilTime.System

open CivilDateTime (InCalendar)

def clock (r : ZoneRule) : Timeline := fun u =>
  match daylightAt? r u with
  | none => r.standardType
  | some d => d.type

variable {r : ZoneRule} {f : Fold} {t u v w : Int} {x : CivilDateTime}

theorem offsetAt_eq (r : ZoneRule) (u : Int) : offsetAt r u = (clock r u).offset := by
  unfold offsetAt clock
  cases daylightAt? r u <;> rfl

theorem shows_iff : (clock r).Shows w t ↔ t + offsetAt r t = w := by
  rw [offsetAt_eq]; rfl

/-! ## Looks at the clock -/

theorem shownAt_eq_some : shownAt r u = some w ↔ InCalendar w ∧ u + offsetAt r u = w := by
  simp only [shownAt]
  split
  · rename_i inside
    constructor
    · intro h; cases h; exact ⟨inside, rfl⟩
    · intro h; rw [h.2]
  · rename_i outside
    constructor
    · intro h; cases h
    · intro h; rw [h.2] at outside; exact absurd h.1 outside

theorem offset?_eq_some {o : Offset} :
    offset? r u = some o ↔ o.seconds = offsetAt r u ∧ InCalendar (u + o.seconds) := by
  simp only [offset?, Option.bind_eq_bind, Option.bind_eq_some_iff, Offset.ofSeconds?_eq_some]
  constructor
  · intro h
    obtain ⟨p, seconds, h⟩ := h
    split at h
    · cases h; exact ⟨seconds, ‹_›⟩
    · cases h
  · intro h
    exact ⟨o, h.1, if_pos h.2⟩

theorem offset_clock (r : ZoneRule) (u : Int) :
    (clock r u).offset = r.offset ∨ ∃ d, r.daylight = some d ∧ (clock r u).offset = d.offset := by
  unfold clock
  cases h : daylightAt? r u with
  | none => exact .inl rfl
  | some d => exact .inr ⟨d, (Option.filter_eq_some_iff.mp h).1, rfl⟩

/-- The clock shows no more than two offsets. -/
theorem offsetAt_or (r : ZoneRule) : ∃ p q, ∀ u, offsetAt r u = p ∨ offsetAt r u = q := by
  refine ⟨r.offset, (r.daylight.map Daylight.offset).getD r.offset, fun u => ?_⟩
  rw [offsetAt_eq]
  rcases offset_clock r u with standard | ⟨d, hd, daylight⟩
  · exact .inl standard
  · right
    simp [hd, daylight]

/-! ## The search -/

def aside (f : Fold) (u : Int) : Int :=
  match f with
  | .first => u - 86400
  | .second => u + 86400

/-- The search among offsets that are known at all instants. -/
def search (off : Int → Int) (f : Fold) (t : Int) : Int :=
  let u := t - off t
  if off u = off t then
    let b := off (aside f u)
    if b = off t then u
    else if off (t - b) = b then t - b
    else u
  else
    let b := off u
    if off (t - b) = b then t - b
    else match f with
      | .first => max u (t - b)
      | .second => min u (t - b)

theorem add_sub_self (u o : Int) : u + o - u = o := by omega

theorem sub_add_eq_iff (t b o : Int) : t - b + o = t ↔ o = b := by omega

/-- The instant found, if there is one, is that of the search. -/
theorem instantOf_eq_search (h : instantOf r f t = some u) : u = search (offsetAt r) f t := by
  simp only [instantOf, Option.bind_eq_bind, Option.bind_eq_some_iff, shownAt_eq_some] at h
  -- a look that succeeds gives the instant and the offset there, as the search among known offsets has it
  obtain ⟨w, ⟨-, rfl⟩, t₁, ⟨-, rfl⟩, h⟩ := h
  simp only [add_sub_self, sub_add_eq_iff] at h
  unfold search
  split at h
  · rename_i same
    rw [if_pos same]
    obtain ⟨b, hb, h⟩ := Option.bind_eq_some_iff.mp h
    obtain ⟨-, rfl⟩ := shownAt_eq_some.mp hb
    change (if offsetAt r t = aside f _ + offsetAt r (aside f _) - aside f _ then _
      else (shownAt r (t - (aside f _ + offsetAt r (aside f _) - aside f _))).bind _) = _ at h
    simp only [add_sub_self] at h
    split at h
    · rename_i steady
      cases h
      exact (if_pos steady.symm).symm
    · rename_i changes
      obtain ⟨t₂, ht₂, h⟩ := Option.bind_eq_some_iff.mp h
      obtain ⟨-, rfl⟩ := shownAt_eq_some.mp ht₂
      simp only [sub_add_eq_iff] at h
      cases h
      exact (if_neg fun e => changes e.symm).symm
  · rename_i other
    rw [if_neg other]
    obtain ⟨b, hb, h⟩ := Option.bind_eq_some_iff.mp h
    obtain ⟨-, rfl⟩ := shownAt_eq_some.mp hb
    simp only [sub_add_eq_iff] at h
    cases h
    rfl

/-- The search finds its instant, if no look leaves the calendar. -/
theorem exists_instantOf (inside : ∀ v, (v - t).natAbs < 259200 → InCalendar v)
    (below : ∀ v, (offsetAt r v).natAbs < 86400) : ∃ u, instantOf r f t = some u := by
  have look (v : Int) (near : (v - t).natAbs < 172800) : shownAt r v = some (v + offsetAt r v) := by
    have := below v
    exact shownAt_eq_some.mpr ⟨inside _ (by omega), rfl⟩
  have near := below t
  have near' := below (t - offsetAt r t)
  simp only [instantOf, Option.bind_eq_bind]
  rw [look t (by omega), Option.bind_some, add_sub_self, look (t - offsetAt r t) (by omega), Option.bind_some]
  split
  · have besides : (aside f (t - offsetAt r t) - t).natAbs < 172800 := by
      cases f <;> simp only [aside] <;> omega
    have near := below (aside f (t - offsetAt r t))
    change ∃ u, ((shownAt r (aside f _)).bind fun s => if offsetAt r t = s - aside f _ then _
      else (shownAt r (t - (s - aside f _))).bind _) = some u
    rw [look _ besides, Option.bind_some, add_sub_self]
    split
    · exact ⟨_, rfl⟩
    · rw [look _ (by omega)]
      exact ⟨_, rfl⟩
  · rw [add_sub_self, look _ (by omega)]
    exact ⟨_, rfl⟩

/-! ## What is found -/

variable {off : Int → Int}

/-- Of two instants that a reading would be on one offset and on the other, none shows it if each
stands on the wrong one. -/
theorem not_shows_of_two {p q : Int} (two : ∀ u, off u = p ∨ off u = q) (hp : off (t - p) ≠ p)
    (hq : off (t - q) ≠ q) (v : Int) : v + off v ≠ t := by
  intro hv
  rcases two v with h | h
  · rw [show t - p = v by omega] at hp; exact hp h
  · rw [show t - q = v by omega] at hq; exact hq h

/-- Where there are only two offsets, the search finds an instant that shows the reading unless none
does: it only gives up when it has seen both instants to stand on the wrong offset. -/
theorem search_shows {p q : Int} (two : ∀ u, off u = p ∨ off u = q) (f : Fold) (t : Int) :
    search off f t + off (search off f t) = t ∨ ∀ v, v + off v ≠ t := by
  unfold search
  dsimp only
  split
  · rename_i same
    left
    split
    · omega
    · split <;> omega
  · rename_i other
    split
    · left; omega
    · rename_i other'
      right
      -- each of the two offsets has been tried and was not in force
      rcases two t with a | a <;> rcases two (t - off t) with b | b
      · omega
      · rw [a] at b other; rw [a, b] at other'
        exact not_shows_of_two two (by omega) other'
      · rw [a] at b other; rw [a, b] at other'
        exact not_shows_of_two two other' (by omega)
      · omega

/-- A reading that is shown at two instants is found at the one that its fold means, if the clock
keeps its offset for the day before the earlier one and for the day after the later one. -/
theorem search_twice {a b : Int} (less : a < b) (close : b - a ≤ 86400) (ha : a + off a = t) (hb : b + off b = t)
    (two : ∀ u, off u = off a ∨ off u = off b) (before : ∀ u, a - 86400 ≤ u → u ≤ a → off u = off a)
    (after : ∀ u, b ≤ u → u ≤ b + 86400 → off u = off b) :
    search off .first t = a ∧ search off .second t = b := by
  have ea : t - off a = a := by omega
  have eb : t - off b = b := by omega
  have ne : off a ≠ off b := by omega
  unfold search aside
  dsimp only
  rcases two t with h | h
  · rw [h, ea, if_pos rfl, before (a - 86400) (by omega) (by omega), if_pos rfl, if_pos rfl,
      after (a + 86400) (by omega) (by omega), if_neg ne.symm, eb, if_pos rfl]
    exact ⟨rfl, rfl⟩
  · rw [h, eb, if_pos rfl, before (b - 86400) (by omega) (by omega), if_neg ne, ea, if_pos rfl, if_pos rfl,
      after (b + 86400) (by omega) (by omega), if_pos rfl]
    exact ⟨rfl, rfl⟩

/-- (1) The instant found shows the reading, unless none does. -/
theorem instantOf_shows (h : instantOf r f t = some u) : (clock r).Shows t u ∨ ∀ v, ¬ (clock r).Shows t v := by
  obtain ⟨p, q, two⟩ := offsetAt_or r
  simp only [shows_iff]
  rw [instantOf_eq_search h]
  exact search_shows two f t

/-! ## The way to UTC -/

theorem utcOf_eq_some : utcOf r f w = some u ↔
    InCalendar u ∧ ∃ v, instantOf r f w = some v ∧ (offsetAt r v).natAbs < 86400 ∧ u = w - offsetAt r v := by
  simp only [utcOf, Option.bind_eq_bind, Option.bind_eq_some_iff, Offset.ofSeconds?_eq_some]
  constructor
  · intro h
    obtain ⟨v, hv, o, seconds, h⟩ := h
    have lo := o.neg_day_lt; have hi := o.lt_day
    split at h
    · cases h
      exact ⟨‹_›, v, hv, by omega, by omega⟩
    · cases h
  · intro h
    obtain ⟨inside, v, hv, below, rfl⟩ := h
    exact ⟨v, hv, ⟨offsetAt r v, by omega, by omega⟩, rfl, if_pos inside⟩

/-- What a reading is taken for shows the reading, unless nothing does. -/
theorem utcOf_shows (h : utcOf r f w = some u) : (clock r).Shows w u ∨ ∀ v, ¬ (clock r).Shows w v := by
  obtain ⟨-, v, hv, -, rfl⟩ := utcOf_eq_some.mp h
  rcases instantOf_shows hv with shows | none
  · left
    have at_ := shows_iff.mp shows
    rwa [show w - offsetAt r v = v by omega]
  · exact .inr none

/-- So it shows the reading if any moment does. -/
theorem shown_of_utcOf {v : Int} {p q : Offset} (hp : offset? r v = some p) (shown : v + p.seconds = w)
    (h : utcOf r f w = some u) (hq : offset? r u = some q) : u + q.seconds = w := by
  rcases utcOf_shows h with shows | none
  · rwa [shows_iff, ← (offset?_eq_some.mp hq).1] at shows
  · rw [(offset?_eq_some.mp hp).1] at shown
    exact absurd (shows_iff.mpr shown) (none v)

theorem of_orInvalid_eq_ok {α : Type} {a : Option α} {b : α} :
    (Traced.of (orInvalid a)).result = .ok b ↔ a = some b := by
  cases a <;> simp [orInvalid]

/-- A reading has candidates when what it is taken for shows it. -/
theorem candidates_eq_ok {res : Resolution Offset} : (candidates r x).result = .ok res ↔
    ∃ early p late q, utcOf r .first x.timestamp = some early ∧ offset? r early = some p ∧
      early + p.seconds = x.timestamp ∧ utcOf r .second x.timestamp = some late ∧
      offset? r late = some q ∧ res = if early = late then .single p else .ambiguous p q := by
  simp only [candidates, Traced.result_bind_eq_ok, of_orInvalid_eq_ok]
  constructor
  · intro h
    obtain ⟨early, he, p, hp, h⟩ := h
    split at h
    · cases h
    rename_i shows
    obtain ⟨late, hl, h⟩ := Traced.result_bind_eq_ok.mp h
    obtain ⟨q, hq, h⟩ := Traced.result_bind_eq_ok.mp h
    refine ⟨early, p, late, q, he, hp, Classical.not_not.mp shows, of_orInvalid_eq_ok.mp hl,
      of_orInvalid_eq_ok.mp hq, ?_⟩
    split at h
    · cases h; exact (if_pos ‹_›).symm
    · cases h; exact (if_neg ‹_›).symm
  · intro h
    obtain ⟨early, p, late, q, he, hp, shows, hl, hq, rfl⟩ := h
    refine ⟨early, he, p, hp, ?_⟩
    rw [if_neg (not_not_intro shows), Traced.result_bind_of_ok (of_orInvalid_eq_ok.mpr hl),
      Traced.result_bind_of_ok (of_orInvalid_eq_ok.mpr hq)]
    split <;> rfl

/-- A reading that is taken for a moment with another reading does not exist. -/
theorem candidates_of_not_shows {early : Int} {p : Offset} (he : utcOf r .first x.timestamp = some early)
    (hp : offset? r early = some p) (h : early + p.seconds ≠ x.timestamp) :
    (candidates r x).result = .error (.failure .invalidDateTime) := by
  unfold candidates
  rw [Traced.result_bind_of_ok (of_orInvalid_eq_ok.mpr he), Traced.result_bind_of_ok (of_orInvalid_eq_ok.mpr hp),
    if_pos h]
  rfl

/-- What a reading is taken for, by an offset found for it, is a moment of the calendar, and has that offset. -/
theorem utcOf_of_candidates {res : Resolution Offset} (h : (candidates r x).result = .ok res) :
    ∀ o ∈ res.toList, ∃ f, utcOf r f x.timestamp = some (x.timestamp - o.seconds) ∧
      offset? r (x.timestamp - o.seconds) = some o := by
  obtain ⟨early, p, late, q, he, hp, shown, hl, hq, rfl⟩ := candidates_eq_ok.mp h
  have shownLater := shown_of_utcOf hp shown hl hq
  have atEarly : early = x.timestamp - p.seconds := by omega
  have atLate : late = x.timestamp - q.seconds := by omega
  rw [atEarly] at he hp
  rw [atLate] at hl hq
  intro o ho
  split at ho <;> simp only [Resolution.toList, List.mem_cons, List.not_mem_nil, or_false] at ho
  · subst ho; exact ⟨.first, he, hp⟩
  · rcases ho with rfl | rfl
    · exact ⟨.first, he, hp⟩
    · exact ⟨.second, hl, hq⟩

/-- (2) An offset found for a reading is the one in force at the moment that the reading is by it. -/
theorem offset_of_candidates {res : Resolution Offset} (h : (candidates r x).result = .ok res) :
    ∀ o ∈ res.toList, offset? r (x.timestamp - o.seconds) = some o := by
  intro o ho
  obtain ⟨-, -, found⟩ := utcOf_of_candidates h o ho
  exact found

theorem inCalendar_of_candidates {res : Resolution Offset} (h : (candidates r x).result = .ok res) :
    ∀ o ∈ res.toList, InCalendar (x.timestamp - o.seconds) := by
  intro o ho
  obtain ⟨f, taken, -⟩ := utcOf_of_candidates h o ho
  exact (utcOf_eq_some.mp taken).1

end CivilTime.System
