/-
  CivilTime.Proofs.Pattern.Match — texts that a format takes apart without going back.

  A token takes a piece off a text (`Token.Takes`) if the piece is the first front that it tries. A
  text is spelled for a format (`Spelled`) if it is made of one piece for each token, and each token
  takes its piece off what the pieces from there on make. Then the first match is the one by
  pieces, and nothing is left of the text (`firstMatch_of_spelled`).

  Which front a field tries first follows from its shapes. A shape sees only as many characters as
  it has, so a field of short shapes takes the same piece whatever follows (`takes_append`), a run
  of digits goes up to the first character that is none (`takes_run`), and at the end of a text
  the shapes that are too long for it do not count (`findSome?_of_longer`).
-/

import CivilTime.Pattern
import Mathlib.Data.List.Basic

namespace CivilTime.Pattern

open Directive
open Text (isDigit decimal digit)

/-! ## Shapes -/

namespace Shape

/-- A shape sees nothing of what follows a text that is long enough for it. -/
theorem split?_append {shape : Shape} {cs : List Char} (long : shape.length ≤ cs.length) (rest : List Char) :
    split? shape (cs ++ rest) = (split? shape cs).map fun r => (r.1, r.2 ++ rest) := by
  induction shape generalizing cs with
  | nil => rfl
  | cons p ps ih =>
    cases cs with
    | nil => simp at long
    | cons c cs =>
      have shorter : ps.length ≤ cs.length := by simpa using long
      simp only [List.cons_append, split?, ih shorter]
      split
      · simp [Option.map_map, Function.comp_def]
      · rfl

theorem split?_of_longer {shape : Shape} {cs : List Char} (longer : cs.length < shape.length) :
    split? shape cs = none := by
  induction shape generalizing cs with
  | nil => simp at longer
  | cons p ps ih =>
    cases cs with
    | nil => rfl
    | cons c cs =>
      have stillLonger : cs.length < ps.length := by simpa using longer
      simp [split?, ih stillLonger]

/-- A shape that wants the same of every character splits off a front of such characters. -/
theorem split?_replicate {p : Char → Bool} {cs : List Char} (all : ∀ c ∈ cs, p c = true) (rest : List Char) :
    split? (List.replicate cs.length p) (cs ++ rest) = some (cs, rest) := by
  induction cs with
  | nil => rfl
  | cons c cs ih =>
    have first : p c = true := all c (List.mem_cons_self ..)
    have others := ih fun c hc => all c (List.mem_cons_of_mem _ hc)
    simp [List.replicate_succ, split?, first, others]

/-- A front of such characters is not longer than there are of them. -/
theorem split?_replicate_of_stop {p : Char → Bool} {cs rest : List Char} {n : Nat} (more : cs.length < n)
    (stop : ∀ c ∈ rest.head?, p c = false) : split? (List.replicate n p) (cs ++ rest) = none := by
  induction cs generalizing n with
  | nil =>
    obtain ⟨k, rfl⟩ : ∃ k, n = k + 1 := ⟨n - 1, by simp at more; omega⟩
    cases rest with
    | nil => rfl
    | cons c rest => simp [List.replicate_succ, split?, stop c rfl]
  | cons c cs ih =>
    obtain ⟨k, rfl⟩ : ∃ k, n = k + 1 := ⟨n - 1, by simp at more; omega⟩
    have fewer : cs.length < k := by simpa using more
    simp [List.replicate_succ, split?, ih fewer]

/-- Shapes that are longer than the text are passed over. -/
theorem findSome?_of_longer {shapes : List Shape} {cs : List Char} {i : Nat} {shape : Shape}
    {r : List Char × List Char} (longer : ∀ s ∈ shapes.take i, cs.length < s.length) (at_ : shapes[i]? = some shape)
    (h : split? shape cs = some r) : shapes.findSome? (split? · cs) = some r := by
  obtain ⟨less, rfl⟩ := List.getElem?_eq_some_iff.mp at_
  have passed : (shapes.take i).findSome? (split? · cs) = none :=
    List.findSome?_eq_none_iff.mpr fun s hs => split?_of_longer (longer s hs)
  rw [← List.take_append_drop i shapes, List.findSome?_append, passed, List.drop_eq_getElem_cons less,
    List.findSome?_cons, h]
  rfl

end Shape

/-! ## Tokens -/

namespace Token

/-- Of all fronts of a text the token tries this one first. -/
def Takes (zones : ZoneNames) (t : Token) (front rest : List Char) : Prop :=
  (t.splits zones (front ++ rest)).head? = some (front, rest)

instance (zones : ZoneNames) (t : Token) (front rest : List Char) : Decidable (t.Takes zones front rest) :=
  inferInstanceAs (Decidable (_ = _))

variable {zones : ZoneNames}

theorem takes_field {d : Directive} {front rest : List Char} :
    (field d).Takes zones front rest ↔
      (d.shapes zones).findSome? (Shape.split? · (front ++ rest)) = some (front, rest) := by
  unfold Takes splits
  rw [List.head?_filterMap]

theorem takes_literal (a : Char) (rest : List Char) : (literal a).Takes zones [a] rest := by
  simp [Takes, splits, Shape.split?, Text.sameLetter]

/-- A run of blanks takes a blank that stands alone. -/
theorem takes_blank {rest : List Char} (stop : ∀ c ∈ rest.head?, Text.isBlank c = false) :
    blanks.Takes zones [' '] rest := by
  have blank : Text.isBlank ' ' = true := by decide
  have alone : rest.takeWhile Text.isBlank = [] := by
    cases rest with
    | nil => rfl
    | cons c rest => simp [stop c rfl]
  simp [Takes, splits, blank, alone]

/-- A field that takes a text none of its shapes is longer than takes it off every longer text. -/
theorem takes_append {d : Directive} {front : List Char} (short : ∀ s ∈ d.shapes zones, s.length ≤ front.length)
    (h : (field d).Takes zones front []) (rest : List Char) : (field d).Takes zones front rest := by
  simp only [Takes, splits, List.append_nil] at h ⊢
  have seen : (d.shapes zones).filterMap (Shape.split? · (front ++ rest)) =
      ((d.shapes zones).filterMap (Shape.split? · front)).map fun r => (r.1, r.2 ++ rest) := by
    rw [List.map_filterMap]
    exact List.filterMap_congr fun s hs => Shape.split?_append (short s hs) rest
  rw [seen, List.head?_map, h]
  rfl

/-- A field that takes a number of characters of one kind, the more the better, takes them all. -/
theorem takes_run {d : Directive} {p : Char → Bool} {front rest : List Char}
    (shapes : d.shapes zones = Shape.digits p) (some : 1 ≤ front.length) (few : front.length ≤ 6)
    (all : ∀ c ∈ front, p c = true) (stop : ∀ c ∈ rest.head?, p c = false) : (field d).Takes zones front rest := by
  have taken := Shape.split?_replicate all rest
  have refused {n : Nat} (more : front.length < n) := Shape.split?_replicate_of_stop more stop
  rw [takes_field, shapes]
  unfold Shape.digits
  generalize front.length = n at *
  -- the counts above the length of the run are refused, one after the other
  obtain rfl | rfl | rfl | rfl | rfl | rfl : n = 6 ∨ n = 5 ∨ n = 4 ∨ n = 3 ∨ n = 2 ∨ n = 1 := by omega
  all_goals simp only [List.map_cons, List.findSome?_cons, Nat.reduceLT, refused, taken]

/-- The field takes both digits of every number in a range, and sees two characters at most. -/
def TwoDigits (d : Directive) (lo hi : Nat) : Prop :=
  d ≠ .zoneName ∧ (∀ s ∈ d.shapes ⟨[]⟩, s.length ≤ 2) ∧
    ∀ n < hi + 1, lo ≤ n → (field d).Takes ⟨[]⟩ (decimal 2 n) []

instance (d : Directive) (lo hi : Nat) : Decidable (TwoDigits d lo hi) := inferInstanceAs (Decidable (_ ∧ _ ∧ _))

/-- Names of zones matter to the field for them only. -/
theorem shapes_eq (zones : ZoneNames) {d : Directive} (plain : d ≠ .zoneName) : d.shapes zones = d.shapes ⟨[]⟩ := by
  cases d with
  | zoneName => exact absurd rfl plain
  | _ => rfl

theorem takes_two_digits {d : Directive} {lo hi n : Nat} (h : TwoDigits d lo hi) (least : lo ≤ n) (most : n ≤ hi)
    (rest : List Char) : (field d).Takes zones (decimal 2 n) rest := by
  obtain ⟨plain, short, closed⟩ := h
  have alone := closed n (by omega) least
  rw [takes_field, ← shapes_eq zones plain, ← takes_field] at alone
  refine takes_append (fun s hs => ?_) alone rest
  rw [shapes_eq zones plain] at hs
  rw [Text.length_decimal]
  exact short s hs

theorem twoDigits_month : TwoDigits month 1 12 := by decide

theorem twoDigits_dayOfMonth : TwoDigits dayOfMonth 1 31 := by decide

theorem twoDigits_hour24 : TwoDigits hour24 0 23 := by decide

theorem twoDigits_minute : TwoDigits minute 0 59 := by decide

theorem twoDigits_second : TwoDigits second 0 59 := by decide

end Token

/-! ## Spelled texts -/

abbrev Piece := Token × List Char

def spelling (pieces : List Piece) : List Char := pieces.flatMap Prod.snd

def captures (pieces : List Piece) : List (Directive × List Char) := pieces.flatMap fun p => p.1.captured p.2

/-- Each token takes its piece off what the pieces from there on make. -/
def Spelled (zones : ZoneNames) : List Piece → Prop
  | [] => True
  | (t, front) :: pieces => t.Takes zones front (spelling pieces) ∧ Spelled zones pieces

theorem Token.firstMatch_of_takes {zones : ZoneNames} {t : Token} {ts : List Token} {front rest : List Char}
    {r : List (Directive × List Char) × List Char} (h : t.Takes zones front rest)
    (hr : firstMatch zones ts rest = some r) :
    firstMatch zones (t :: ts) (front ++ rest) = some (t.captured front ++ r.1, r.2) := by
  obtain ⟨others, split⟩ := List.head?_eq_some_iff.mp h
  simp [firstMatch, split, hr]

theorem firstMatch_of_spelled {zones : ZoneNames} {pieces : List Piece} (h : Spelled zones pieces) :
    Token.firstMatch zones (pieces.map Prod.fst) (spelling pieces) = some (captures pieces, []) := by
  -- no token has to give back what it took, so the first match is the spelling
  induction pieces with
  | nil => rfl
  | cons piece pieces ih =>
    obtain ⟨taken, others⟩ := h
    exact Token.firstMatch_of_takes taken (ih others)

/-- A spelled text is read as the fields that its pieces are for. -/
theorem read_of_spelled {zones : ZoneNames} {pieces : List Piece} {text format : String}
    (tokens : Token.ofFormat format = .ok (pieces.map Prod.fst)) (spells : text.toList = spelling pieces)
    (h : Spelled zones pieces) :
    read zones text format = Fields.ofTexts (captures pieces) >>= Fields.resolve := by
  have found := firstMatch_of_spelled h
  unfold read
  rw [tokens, spells]
  simp only [bind, Except.bind, found]
  rfl

end CivilTime.Pattern
