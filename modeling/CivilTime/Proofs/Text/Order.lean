/-
  CivilTime.Proofs.Text.Order — texts of dates and times follow one another as what they show does.

  (1) Digits follow one another as their values do, and so do numbers that are written in the same count of
  decimal places (`compare_decimal`). With different counts it is decimal fractions that do: the places of
  the smaller one come first (`compare_decimal_of_less`).

  (2) The fraction of a second is written in no places, three, six or nine. Whatever their count, they are the
  decimal places of the part of a second that it is (`fraction_eq`), so fractions are in order as well
  (`compare_fraction`).

  (3) All other fields have fixed widths, and the marks between them are the same in every text. So a text is
  compared field by field (`compare_charsWith`).

  Main statement: `text_embeds_shown`.
-/

import CivilTime.Proofs.Lexicographic
import CivilTime.Proofs.Pattern.Written

namespace CivilTime

open Lexicographic
open Text (decimal digit length_decimal)

/-! ## (1) Decimal places -/

namespace Text

theorem compare_digit (m n : Nat) : compare (digit m) (digit n) = compare (m % 10) (n % 10) := by
  have all : ∀ j < 10, ∀ k < 10, compare (Char.ofNat (0x30 + j)) (Char.ofNat (0x30 + k)) = compare j k := by decide
  exact all (m % 10) (Nat.mod_lt m (by decide)) (n % 10) (Nat.mod_lt n (by decide))

/-- Numbers are compared by their tens, and within ten by the last place. -/
theorem compare_div_mod (m n : Nat) : compare m n = (compare (m / 10) (n / 10)).then (compare (m % 10) (n % 10)) := by
  rcases Nat.lt_trichotomy (m / 10) (n / 10) with less | same | more
  · rw [Nat.compare_eq_lt.mpr less, Nat.compare_eq_lt.mpr (by omega)]
    rfl
  · rw [Nat.compare_eq_eq.mpr same, Ordering.eq_then]
    rcases Nat.lt_trichotomy (m % 10) (n % 10) with less | equal | more
    · rw [Nat.compare_eq_lt.mpr less, Nat.compare_eq_lt.mpr (by omega)]
    · rw [Nat.compare_eq_eq.mpr equal, Nat.compare_eq_eq.mpr (by omega)]
    · rw [Nat.compare_eq_gt.mpr more, Nat.compare_eq_gt.mpr (by omega)]
  · rw [Nat.compare_eq_gt.mpr more, Nat.compare_eq_gt.mpr (by omega)]
    rfl

/-- Numbers that have room in the same count of places are in order with zeros in front. -/
theorem compare_decimal {w m n : Nat} (hm : m < 10 ^ w) (hn : n < 10 ^ w) :
    compare (decimal w m) (decimal w n) = compare m n := by
  induction w generalizing m n with
  | zero =>
    have : m = 0 ∧ n = 0 := by simpa using And.intro hm hn
    rw [this.1, this.2]
    rfl
  | succ w ih =>
    have tens : compare (decimal w (m / 10)) (decimal w (n / 10)) = compare (m / 10) (n / 10) :=
      ih (by rw [Nat.pow_succ] at hm; omega) (by rw [Nat.pow_succ] at hn; omega)
    have last : compare [digit m] [digit n] = compare (m % 10) (n % 10) := by
      rw [List.compare_cons_cons, compare_digit, List.compare_nil_nil, Ordering.then_eq]
    rw [decimal, decimal, compare_append (by simp), tens, last, ← compare_div_mod]

/-- The places of a number are those of what its last places leave, and then these. -/
theorem decimal_add (w k n : Nat) : decimal (w + k) n = decimal w (n / 10 ^ k) ++ decimal k n := by
  -- places are written from the last one, so `k` counts those taken off the end
  induction k generalizing n with
  | zero => simp [decimal]
  | succ k ih =>
    have front : n / 10 / 10 ^ k = n / 10 ^ (k + 1) := by
      rw [Nat.div_div_eq_div_mul, Nat.pow_succ, Nat.mul_comm]
    rw [← Nat.add_assoc, decimal, ih, front, decimal, List.append_assoc]

/-- Of two decimal fractions the places of the smaller one come first, however many they are. -/
theorem compare_decimal_of_less {v w m n : Nat} (hm : m < 10 ^ v) (hn : n < 10 ^ w) (less : m * 10 ^ w < n * 10 ^ v) :
    compare (decimal v m) (decimal w n) = .lt := by
  rcases Nat.le_total v w with fewer | more
  · -- The front of the longer one is compared, and if it is the same there are places left.
    obtain ⟨k, rfl⟩ := Nat.exists_eq_add_of_le fewer
    have less : m * 10 ^ k < n := by
      rw [Nat.pow_add, Nat.mul_comm (10 ^ v), ← Nat.mul_assoc] at less
      exact Nat.lt_of_mul_lt_mul_right less
    have room : n / 10 ^ k < 10 ^ v := Nat.div_lt_of_lt_mul (by rwa [Nat.mul_comm, ← Nat.pow_add])
    have front : m ≤ n / 10 ^ k := (Nat.le_div_iff_mul_le (Nat.pow_pos (by decide))).mpr (Nat.le_of_lt less)
    rw [decimal_add, ← List.append_nil (decimal v m), compare_append (by simp), compare_decimal hm room]
    rcases Nat.lt_or_eq_of_le front with before | same
    · rw [Nat.compare_eq_lt.mpr before]
      rfl
    · rw [Nat.compare_eq_eq.mpr same, Ordering.eq_then]
      cases k with
      | zero => simp at same less; omega
      | succ k => rw [decimal]; cases decimal k (n / 10) <;> rfl
  · obtain ⟨k, rfl⟩ := Nat.exists_eq_add_of_le more
    have less : m < n * 10 ^ k := by
      rw [Nat.pow_add, Nat.mul_comm (10 ^ w), ← Nat.mul_assoc] at less
      exact Nat.lt_of_mul_lt_mul_right less
    have front : m / 10 ^ k < n := Nat.div_lt_of_lt_mul (by rwa [Nat.mul_comm])
    rw [decimal_add, ← List.append_nil (decimal w n), compare_append (by simp),
      compare_decimal (Nat.lt_trans front hn) hn, Nat.compare_eq_lt.mpr front]
    rfl

/-- A field of fixed width is compared before what follows it. -/
theorem compare_decimal_append {w : Nat} {m n : Int} (hm : 0 ≤ m ∧ m < (10 ^ w : Nat)) (hn : 0 ≤ n ∧ n < (10 ^ w : Nat))
    (cs ds : List Char) :
    compare (decimal w m.toNat ++ cs) (decimal w n.toNat ++ ds) = (compare m n).then (compare cs ds) := by
  have same : compare m.toNat n.toNat = compare m n := by
    rcases Int.lt_trichotomy m n with less | equal | more
    · rw [Int.compare_eq_lt.mpr less, Nat.compare_eq_lt.mpr (by omega)]
    · rw [Int.compare_eq_eq.mpr equal, Nat.compare_eq_eq.mpr (by omega)]
    · rw [Int.compare_eq_gt.mpr more, Nat.compare_eq_gt.mpr (by omega)]
  rw [compare_append (by simp), compare_decimal (by omega) (by omega), same]

theorem compare_cons_self (c : Char) (cs ds : List Char) : compare (c :: cs) (c :: ds) = compare cs ds := by
  have same : compare c c = .eq := Std.ReflCmp.compare_self
  rw [List.compare_cons_cons, same, Ordering.eq_then]

end Text

open Text

/-! ## (2) Fractions -/

/-- A fraction that is written has the decimal places of the part of a second that it is. -/
theorem fraction_eq {n : Int} (lo : 0 < n) (hi : n < 1000000000) :
    ∃ w k, fraction n = '.' :: decimal w k ∧ k < 10 ^ w ∧ k * 10 ^ 9 = n.toNat * 10 ^ w := by
  unfold fraction
  rw [if_neg (by omega)]
  by_cases millis : n % 1000000 = 0
  · rw [if_pos millis]
    exact ⟨3, _, rfl, by omega, by omega⟩
  · rw [if_neg millis]
    by_cases micros : n % 1000 = 0
    · rw [if_pos micros]
      exact ⟨6, _, rfl, by omega, by omega⟩
    · rw [if_neg micros]
      exact ⟨9, _, rfl, by omega, rfl⟩

theorem compare_fraction_of_less {m n : Int} (lo : 0 ≤ m) (less : m < n) (hi : n < 1000000000) :
    compare (fraction m) (fraction n) = .lt := by
  obtain ⟨w, k, written, room, part⟩ := fraction_eq (by omega) hi
  rw [written]
  by_cases zero : m = 0
  · rw [zero]
    rfl
  · obtain ⟨v, j, written', room', part'⟩ := fraction_eq (by omega) (Int.lt_trans less hi)
    rw [written', compare_cons_self]
    apply compare_decimal_of_less room' room
    -- Both sides times a thousand million are numbers of nanoseconds times powers of ten.
    apply Nat.lt_of_mul_lt_mul_right (a := 10 ^ 9)
    calc j * 10 ^ w * 10 ^ 9 = m.toNat * (10 ^ v * 10 ^ w) := by
          rw [Nat.mul_right_comm, part', Nat.mul_assoc]
      _ < n.toNat * (10 ^ v * 10 ^ w) :=
          Nat.mul_lt_mul_of_pos_right (by omega) (Nat.mul_pos (Nat.pow_pos (by decide)) (Nat.pow_pos (by decide)))
      _ = k * 10 ^ v * 10 ^ 9 := by
          rw [Nat.mul_right_comm, part, Nat.mul_assoc, Nat.mul_comm (10 ^ w)]

/-- Fractions of a second follow one another as their nanoseconds do, whatever the count of their places. -/
theorem compare_fraction {m n : Int} (hm : 0 ≤ m ∧ m < 1000000000) (hn : 0 ≤ n ∧ n < 1000000000) :
    compare (fraction m) (fraction n) = compare m n := by
  rcases Int.lt_trichotomy m n with less | rfl | more
  · rw [compare_fraction_of_less hm.1 less hn.2, Int.compare_eq_lt.mpr less]
  · rw [Int.compare_eq_eq.mpr rfl]
    exact Std.ReflCmp.compare_self
  · have swapped : compare (fraction m) (fraction n) = (compare (fraction n) (fraction m)).swap :=
      Std.OrientedCmp.eq_swap
    rw [swapped, compare_fraction_of_less hn.1 more hm.2, Int.compare_eq_gt.mpr more]
    rfl

/-- Half a second is written in three places, and a microsecond more in six. -/
example : compare (fraction 500000000) (fraction 500001000) = .lt := by decide

/-! ## (3) Fields -/

theorem CivilDate.compare_chars_append (a b : CivilDate) (cs ds : List Char) :
    compare (a.chars ++ cs) (b.chars ++ ds) =
      (compare [a.year, a.month, a.day] [b.year, b.month, b.day]).then (compare cs ds) := by
  have year (d : CivilDate) : 0 ≤ d.year ∧ d.year < (10 ^ 4 : Nat) := by have := d.year_bounds; omega
  have month (d : CivilDate) : 0 ≤ d.month ∧ d.month < (10 ^ 2 : Nat) := by have := d.month_bounds; omega
  have day (d : CivilDate) : 0 ≤ d.day ∧ d.day < (10 ^ 2 : Nat) := by
    have := d.day_bounds.1
    have := d.day_le
    omega
  rw [chars, chars]
  simp only [List.append_assoc, List.cons_append, compare_cons_self, compare_decimal_append (year a) (year b),
    compare_decimal_append (month a) (month b), compare_decimal_append (day a) (day b)]
  simp only [List.compare_cons_cons, List.compare_nil_nil, Ordering.then_eq, Ordering.then_assoc]

theorem ClockTime.shownSecond_bounds (t : ClockTime) : 0 ≤ t.shownSecond ∧ t.shownSecond ≤ 60 := by
  have := t.nano_nonneg
  have := t.nano_lt
  unfold shownSecond second
  omega

theorem ClockTime.compare_chars (a b : ClockTime) : compare a.chars b.chars =
    compare [a.hour, a.minute, a.shownSecond, a.shownNano] [b.hour, b.minute, b.shownSecond, b.shownNano] := by
  have hour (t : ClockTime) : 0 ≤ t.hour ∧ t.hour < (10 ^ 2 : Nat) := by
    have := t.second_nonneg
    have := t.second_lt
    unfold hour
    omega
  have minute (t : ClockTime) : 0 ≤ t.minute ∧ t.minute < (10 ^ 2 : Nat) := by unfold minute; omega
  have second (t : ClockTime) : 0 ≤ t.shownSecond ∧ t.shownSecond < (10 ^ 2 : Nat) := by
    have := t.shownSecond_bounds
    omega
  have nano (t : ClockTime) : 0 ≤ t.shownNano ∧ t.shownNano < 1000000000 := by unfold shownNano; omega
  rw [chars, chars]
  simp only [List.append_assoc, List.cons_append, compare_cons_self, compare_decimal_append (hour a) (hour b),
    compare_decimal_append (minute a) (minute b), compare_decimal_append (second a) (second b),
    compare_fraction (nano a) (nano b)]
  simp only [List.compare_cons_cons, List.compare_nil_nil, Ordering.then_eq]

namespace CivilDateTime

/-- What a date and time shows, from the year to the nanosecond. A leap second is shown as second 60. -/
def shown (x : CivilDateTime) : List Int :=
  [x.date.year, x.date.month, x.date.day, x.time.hour, x.time.minute,
    x.time.second + x.time.nanosecond / 1000000000, x.time.nanosecond % 1000000000]

/-- Texts with the same mark are compared as what they show. -/
theorem compare_charsWith (mark : Char) (a b : CivilDateTime) :
    compare (a.charsWith mark) (b.charsWith mark) = compare a.shown b.shown := by
  have dates : [a.date.year, a.date.month, a.date.day].length = [b.date.year, b.date.month, b.date.day].length := rfl
  rw [charsWith, charsWith, CivilDate.compare_chars_append, compare_cons_self, ClockTime.compare_chars]
  exact (compare_append dates _ _).symm

theorem ofList_charsWith_lt_iff (mark : Char) (a b : CivilDateTime) :
    String.ofList (a.charsWith mark) < String.ofList (b.charsWith mark) ↔ a.shown < b.shown := by
  show (String.ofList (a.charsWith mark)).toList < (String.ofList (b.charsWith mark)).toList ↔ _
  rw [String.toList_ofList, String.toList_ofList, ← compare_chars_lt_iff, ← compare_ints_lt_iff, compare_charsWith]

theorem ofList_charsWith_inj (mark : Char) (a b : CivilDateTime) :
    String.ofList (a.charsWith mark) = String.ofList (b.charsWith mark) ↔ a.shown = b.shown := by
  have chars : compare (a.charsWith mark) (b.charsWith mark) = .eq ↔ a.charsWith mark = b.charsWith mark :=
    Std.compare_eq_iff_eq
  have fields : compare a.shown b.shown = .eq ↔ a.shown = b.shown := Std.compare_eq_iff_eq
  rw [String.ofList_inj, ← chars, ← fields, compare_charsWith]

/-- Outside leap seconds nothing is lost in what is shown. -/
theorem eq_of_shown_eq {a b : CivilDateTime} (ha : ¬ a.time.IsLeapSecond) (hb : ¬ b.time.IsLeapSecond)
    (same : a.shown = b.shown) : a = b := by
  have boundsA : 0 ≤ a.time.nanosecond ∧ a.time.nanosecond < 1000000000 := ⟨a.time.nano_nonneg, Int.not_le.mp ha⟩
  have boundsB : 0 ≤ b.time.nanosecond ∧ b.time.nanosecond < 1000000000 := ⟨b.time.nano_nonneg, Int.not_le.mp hb⟩
  simp only [shown, List.cons.injEq, and_true] at same
  obtain ⟨year, month, day, hour, minute, second, nano⟩ := same
  have date : a.date = b.date := by
    have named := b.date.ofYmd_year_month_day
    rw [← year, ← month, ← day, a.date.ofYmd_year_month_day] at named
    exact Except.ok.inj named
  have time : a.time = b.time := by
    unfold ClockTime.hour at hour
    unfold ClockTime.minute at minute
    unfold ClockTime.second at second
    apply ClockTime.ext <;> omega
  obtain ⟨_, _⟩ := a
  obtain ⟨_, _⟩ := b
  cases date
  cases time
  rfl

end CivilDateTime

/-! ## Texts -/

/-- Texts follow one another by code points as what they show does, field by field, and are the same if they show the
same. Outside leap seconds no two dates and times show the same. So it is with a space between date and time
and with the letter T. -/
theorem text_embeds_shown (a b : CivilDateTime) :
    (a.text < b.text ↔ a.shown < b.shown) ∧ (a.text = b.text ↔ a.shown = b.shown) ∧
    (a.isoText < b.isoText ↔ a.shown < b.shown) ∧ (a.isoText = b.isoText ↔ a.shown = b.shown) ∧
    (¬ a.time.IsLeapSecond → ¬ b.time.IsLeapSecond → a.text = b.text ∨ a.isoText = b.isoText → a = b) := by
  have space := CivilDateTime.ofList_charsWith_inj ' ' a b
  have letter := CivilDateTime.ofList_charsWith_inj 'T' a b
  refine ⟨CivilDateTime.ofList_charsWith_lt_iff ' ' a b, space, CivilDateTime.ofList_charsWith_lt_iff 'T' a b, letter, ?_⟩
  intro ha hb same
  apply CivilDateTime.eq_of_shown_eq ha hb
  rcases same with same | same
  · exact space.mp same
  · exact letter.mp same

end CivilTime
