/-
  CivilTime.Proofs.Reassembly — moments taken apart and put together again.

  A moment has a local date, which remembers the state of its zone, and a local time of day. Together they are
  a reading again, and of the moments that show it the zone takes the earliest (`reassembled_eq`). That
  the date stands for its midnight elsewhere does not matter here: no one asks for midnight, so that it
  may be skipped.

  Where a zone agrees with itself around the reading (`Zone.Agrees`) a moment that it makes from UTC is one of
  those that the reading resolves to (`exists_resolve`). So nothing is lost but which of the two moments it
  was where the clock has shown the reading twice (`Zone.Repeats`), and nothing more is lost when it is done
  again. Main statement: `reassembled_of_isListed`.
-/

import CivilTime.Proofs.Counting
import CivilTime.Proofs.Dates

namespace CivilTime

open CivilDateTime (InCalendar)

/-! ## Taking apart and putting together -/

def ZonedDateTime.reassembled (w : World) (m : ZonedDateTime) : Traced ZonedDateTime := do
  let d ← .of m.date
  let t ← .of m.time
  d.atTime w t

/-- The moment shows a reading that the clock of its zone has shown before. -/
def Zone.Repeats (w : World) (z : Zone) (m : ZonedDateTime) : Prop :=
  ∃ n : ZonedDateTime, (z.momentOfUtc w n.utc).result = .ok n ∧ n.localForm = m.localForm ∧
    n.utc.timestamp < m.utc.timestamp

/-- What becomes of a moment `m` of a zone: the earliest moment `r` of the zone with the reading of `m`, to the
nanosecond. That is `m`, or the other candidate if the reading is ambiguous and `m` is the later one. -/
structure Reassembly (w : World) (z : Zone) (m r : ZonedDateTime) : Prop where
  assembled : (m.reassembled w).result = .ok r
  reading : ∃ l, m.localForm = .ok l ∧ r.localForm = .ok l
  earliest : ∀ n : ZonedDateTime, (z.momentOfUtc w n.utc).result = .ok n → n.localForm = m.localForm →
    (r.utc.compare n.utc).isLE
  notLater : (r.utc.compare m.utc).isLE
  same : ¬ z.Repeats w m → r = m
  earlier : z.Repeats w m → r.utc.timestamp < m.utc.timestamp ∧
    ∀ l, m.localForm = .ok l → (z.resolve w l).result = .ok (.ambiguous r m)
  again : (r.reassembled w).result = .ok r

section

variable {w : World} {z : Zone} {m r : ZonedDateTime} {l : CivilDateTime}

/-- Date and time of day are those of the reading, and the zone is asked for a moment with this reading. -/
theorem reassembled_eq (reads : m.Reads l) (zone : (Zone.ofState w m.state).result = .ok z) :
    (m.reassembled w).result = (z.momentOfLocal w l).result := by
  have shown : m.localForm = .ok l := ZonedDateTime.localForm_eq_ok.mpr reads
  have date : m.date = .ok ⟨l.date, m.state⟩ := by
    simp only [ZonedDateTime.date, shown, bind, Except.bind, pure, Except.pure]
  have time : m.time = .ok l.time := by
    simp only [ZonedDateTime.time, shown, bind, Except.bind, pure, Except.pure]
  unfold ZonedDateTime.reassembled
  rw [date, time]
  exact Traced.result_bind_of_ok zone

/-- Moments with the same reading are in the order of their seconds. -/
theorem isLE_iff_of_reads (hm : m.Reads l) (hr : r.Reads l) :
    (r.utc.compare m.utc).isLE ↔ r.utc.timestamp ≤ m.utc.timestamp :=
  CivilDateTime.compare_isLE_iff (hr.nanosecond.trans hm.nanosecond.symm)

/-! ## The earliest candidate -/

/-- What is not the earliest of the values is the later one of two. -/
theorem Resolution.eq_ambiguous {α : Type} {res : Resolution α} {a : α} (mem : a ∈ res.toList)
    (other : res.earliest ≠ a) : res = .ambiguous res.earliest a := by
  cases res with
  | single b =>
    rw [List.mem_singleton.mp mem] at other
    exact absurd rfl other
  | ambiguous b c =>
    simp only [toList, List.mem_cons, List.not_mem_nil, or_false] at mem
    rcases mem with rfl | rfl
    · exact absurd rfl other
    · rfl

section Resolved

variable (agrees : z.Agrees w l) {res : Resolution ZonedDateTime} (resolved : (z.resolve w l).result = .ok res)
  {n : ZonedDateTime}

include agrees resolved

/-- A reading resolves to the moments of the zone that show it. -/
theorem Zone.Agrees.mem_toList_iff : n ∈ res.toList ↔ n.Reads l ∧ (z.momentOfUtc w n.utc).result = .ok n := by
  rw [← agrees.found n, resolved]
  rfl

theorem Zone.Agrees.earliest_le (mem : n ∈ res.toList) : res.earliest.utc.timestamp ≤ n.utc.timestamp := by
  by_cases same : res.earliest = n
  · exact Int.le_of_eq (by rw [same])
  · rw [Resolution.eq_ambiguous mem same] at resolved
    exact Int.le_of_lt (agrees.ordered _ _ resolved)

end Resolved

section Made

variable (made : (z.momentOfUtc w m.utc).result = .ok m) (reads : m.Reads l)

include made reads

/-- A moment that a zone makes from UTC is one of those that its reading resolves to. -/
theorem Zone.Agrees.exists_resolve (agrees : z.Agrees w l) :
    ∃ res, (z.resolve w l).result = .ok res ∧ m ∈ res.toList := by
  have mem := (agrees.found m).mpr ⟨reads, made⟩
  cases resolved : (z.resolve w l).result with
  | error e =>
    rw [resolved] at mem
    cases mem
  | ok res =>
    rw [resolved] at mem
    exact ⟨res, rfl, mem⟩

variable (known : z.Known w)

include known

theorem reassembled_of_resolve {res : Resolution ZonedDateTime} (resolved : (z.resolve w l).result = .ok res) :
    (m.reassembled w).result = .ok res.earliest := by
  obtain ⟨-, state⟩ := Zone.momentOfUtc_eq_ok.mp made
  rw [reassembled_eq reads (Zone.ofState_of_stateOfUtc known state).2]
  exact Zone.momentOfLocal_of_resolve resolved

/-- A moment becomes the earliest of those that its reading resolves to. -/
theorem reassembly_of_agrees (agrees : z.Agrees w l) : ∃ r, Reassembly w z m r := by
  obtain ⟨res, resolved, mem⟩ := agrees.exists_resolve made reads
  obtain ⟨readsR, madeR⟩ := (agrees.mem_toList_iff resolved).mp res.earliest_mem
  have shown : m.localForm = .ok l := ZonedDateTime.localForm_eq_ok.mpr reads
  have shownR : res.earliest.localForm = .ok l := ZonedDateTime.localForm_eq_ok.mpr readsR
  have among (n : ZonedDateTime) (hn : (z.momentOfUtc w n.utc).result = .ok n)
      (same : n.localForm = m.localForm) : n ∈ res.toList :=
    (agrees.mem_toList_iff resolved).mpr ⟨ZonedDateTime.localForm_eq_ok.mp (same.trans shown), hn⟩
  have least (n : ZonedDateTime) (hn : n ∈ res.toList) : (res.earliest.utc.compare n.utc).isLE :=
    (isLE_iff_of_reads ((agrees.mem_toList_iff resolved).mp hn).1 readsR).mpr (agrees.earliest_le resolved hn)
  -- a resolution has two values at most, so if `m` is not the earliest it is the later one
  have ambiguous (other : res.earliest ≠ m) : (z.resolve w l).result = .ok (.ambiguous res.earliest m) := by
    rw [resolved, ← Resolution.eq_ambiguous mem other]
  refine ⟨res.earliest, {
    assembled := reassembled_of_resolve made reads known resolved
    reading := ⟨l, shown, shownR⟩
    earliest := fun n hn same => least n (among n hn same)
    notLater := least m mem
    same := fun first => ?_
    earlier := ?_
    again := reassembled_of_resolve madeR readsR known resolved }⟩
  · by_cases same : res.earliest = m
    · exact same
    · have less := agrees.ordered _ _ (ambiguous same)
      exact absurd ⟨res.earliest, madeR, shownR.trans shown.symm, less⟩ first
  · rintro ⟨n, hn, same, before⟩
    have notLater := agrees.earliest_le resolved (among n hn same)
    have other : res.earliest ≠ m := by
      intro equal
      rw [equal] at notLater
      omega
    refine ⟨by omega, fun l' hl' => ?_⟩
    rw [shown] at hl'
    cases hl'
    exact ambiguous other

end Made

end

/-- In UTC, a fixed offset or a region with a list of changes, a moment that is made from UTC and taken apart can be
put together again, whether or not its day begins at midnight, and becomes the earliest moment with its reading. -/
theorem reassembled_of_isListed (w : World) (z : Zone) (u : CivilDateTime) (listed : z.IsListed) (known : z.Known w)
    (inside : u.Inside 259200) : ∃ m, (z.momentOfUtc w u).result = .ok m ∧ ∃ r, Reassembly w z m r := by
  obtain ⟨left, right⟩ := inside
  have here := Zone.agrees_of_isListed (w := w) listed (x := u) (by unfold CivilDateTime.Inside; omega)
  obtain ⟨m, made⟩ := here.made u (by omega)
  obtain ⟨rfl, -⟩ := Zone.momentOfUtc_eq_ok.mp made
  have lo := m.state.offset.neg_day_lt
  have hi := m.state.offset.lt_day
  obtain ⟨l, reads⟩ := m.exists_reads (by unfold InCalendar; omega)
  have seconds := reads.seconds
  have there := Zone.agrees_of_isListed (w := w) listed (x := l) (by unfold CivilDateTime.Inside; omega)
  exact ⟨m, made, reassembly_of_agrees made reads known there⟩

/-- The same as `november2018` with half of a leap second gone. -/
def leapSecond2018 : CivilDateTime where
  date := november2018.date
  time := { november2018.time with nanosecond := 1500000000, nano_nonneg := by decide, nano_lt := by decide }

/-- In São Paulo, on a day that has no midnight. -/
theorem reassembled_leapSecond2018 :
    (Zone.region saoPaulo).IsListed ∧ (Zone.region saoPaulo).Known saoPauloWorld ∧ leapSecond2018.Inside 259200 ∧
      saoPaulo.data.Skips (CivilDateTime.startOf leapSecond2018.date).timestamp ∧
      ∃ m, ((Zone.region saoPaulo).momentOfUtc saoPauloWorld leapSecond2018).result = .ok m ∧
        ∃ r, Reassembly saoPauloWorld (.region saoPaulo) m r :=
  ⟨isListed_saoPaulo, rfl, by decide, ⟨0, by decide, by decide, by decide, by decide⟩,
    reassembled_of_isListed saoPauloWorld (.region saoPaulo) leapSecond2018 isListed_saoPaulo rfl (by decide)⟩

/-- A region whose clocks were put back by a whole day, ten days after the start of 1970. -/
def dayBack : Region where
  key := "Day/Back"
  data :=
    { first := ⟨86400, false, "DAY"⟩
      before := ⟨86400, false, "DAY"⟩
      transitions := #[⟨864000, ⟨0, false, "STD"⟩⟩]
      after := .fixed "STD" 0 }

def dayBackWorld : World := ⟨.fixed "UTC" 0, [(dayBack.key, dayBack.data)], .constant none none none none⟩

/-- The reading 1970-01-11 03:00:00, which the clocks show for the second time three hours after the change. -/
def nightBack : CivilDateTime where
  date := ⟨719173, by decide, by decide⟩
  time := { ClockTime.midnight with secondOfDay := 10800, second_nonneg := by decide, second_lt := by decide }

theorem isTable_dayBack : dayBack.data.IsTable where
  listed := ⟨[⟨86400, false, "DAY"⟩, ⟨0, false, "STD"⟩], [(864000, 1)], rfl⟩
  nonempty := by decide
  standardFirst := rfl
  ascending i hi := by change i + 1 < 1 at hi; omega
  apart i hi := by change i + 1 < 1 at hi; omega

/-- Where records hold an offset of a day, a moment need not be put together again: by the earlier reading it would
have that offset. -/
theorem not_reassembled_dayBack :
    dayBack.data.IsTable ∧ (Zone.region dayBack).Known dayBackWorld ∧ nightBack.Inside 259200 ∧
      ∃ m : ZonedDateTime, ((Zone.region dayBack).momentOfUtc dayBackWorld nightBack).result = .ok m ∧
        m.localForm = .ok nightBack ∧ (m.reassembled dayBackWorld).result = .error .offsetTooLarge :=
  ⟨isTable_dayBack, rfl, by decide, ⟨nightBack, .region ⟨.zero, "Day/Back", some "STD"⟩⟩, rfl, rfl, rfl⟩

end CivilTime
