/-
  CivilTime.Proofs.Pattern.Explicit — which formats read an offset.

  The fields of a text are those that its format asks for, in the same order (`directives_of_firstMatch`), and of all
  fields only an offset is kept as an offset (`isSome_take_iff`). So a text that is read gives an offset just if its
  format asks for one (`isSome_offsetMicros_iff`).
-/

import CivilTime.Pattern
import CivilTime.Traced

namespace CivilTime.Pattern

/-- The format can be read, and asks for an offset. -/
def AsksOffset (format : String) : Prop := ∃ tokens, Token.ofFormat format = .ok tokens ∧ .field .offset ∈ tokens

instance (format : String) : Decidable (AsksOffset format) :=
  match h : Token.ofFormat format with
  | .ok tokens => decidable_of_iff (.field .offset ∈ tokens) (by simp [AsksOffset, h])
  | .error _ => .isFalse (by simp [AsksOffset, h])

theorem Token.mem_filterMap_directive? {tokens : List Token} {d : Directive} :
    d ∈ tokens.filterMap directive? ↔ .field d ∈ tokens := by
  rw [List.mem_filterMap]
  constructor
  · rintro ⟨t, mem, asks⟩
    cases t with
    | field d => cases asks; exact mem
    | _ => cases asks
  · exact fun mem => ⟨_, mem, rfl⟩

/-- A match has one text for each field that is asked for. -/
theorem Token.directives_of_firstMatch {zones : ZoneNames} {tokens : List Token} {cs rest : List Char}
    {texts : List (Directive × List Char)} (h : firstMatch zones tokens cs = some (texts, rest)) :
    texts.map Prod.fst = tokens.filterMap directive? := by
  induction tokens generalizing cs texts with
  | nil => cases h; rfl
  | cons t ts ih =>
    obtain ⟨split, -, h⟩ := List.exists_of_findSome?_eq_some h
    obtain ⟨⟨others, left⟩, found, h⟩ := Option.map_eq_some_iff.mp h
    cases h
    rw [List.map_append, ih found]
    cases t <;> rfl

namespace Fields

/-- Of all fields only an offset is taken for one. -/
theorem isSome_take_iff {afternoon : Bool} {f g : Fields} {d : Directive} {cs : List Char}
    (h : f.take afternoon d cs = .ok g) : g.offsetMicros.isSome ↔ f.offsetMicros.isSome ∨ d = .offset := by
  cases d with
  | offset =>
    obtain ⟨o, -, h⟩ := except_bind_eq_ok.mp h
    cases h
    simp
  | monthName | monthAbbreviation | weekdayName | weekdayAbbreviation =>
    obtain ⟨n, -, h⟩ := except_bind_eq_ok.mp h
    cases h
    simp
  | _ =>
    cases h
    simp

theorem isSome_foldlM_iff {afternoon : Bool} {texts : List (Directive × List Char)} {f g : Fields}
    (h : texts.foldlM (fun f t => f.take afternoon t.1 t.2) f = .ok g) :
    g.offsetMicros.isSome ↔ f.offsetMicros.isSome ∨ .offset ∈ texts.map Prod.fst := by
  induction texts generalizing f with
  | nil => cases h; simp
  | cons t texts ih =>
    rw [List.foldlM_cons] at h
    obtain ⟨f', first, h⟩ := except_bind_eq_ok.mp h
    rw [ih h, isSome_take_iff first, List.map_cons, List.mem_cons, or_assoc, eq_comm (a := t.1)]

theorem offsetMicros_of_resolve {f : Fields} {parsed : Parsed} (h : f.resolve = .ok parsed) :
    parsed.offsetMicros = f.offsetMicros := by
  unfold resolve at h
  obtain ⟨-, -, h⟩ := except_bind_eq_ok.mp h
  obtain ⟨⟨y, m, d⟩, -, h⟩ := except_bind_eq_ok.mp h
  dsimp only at h
  split at h
  case' h_1 o given =>
    split at h
    · cases h
  all_goals
    split at h
    · cases h; rfl
    · cases h

end Fields

/-- A text that is read gives an offset just if its format asks for one. -/
theorem isSome_offsetMicros_iff {zones : ZoneNames} {text format : String} {parsed : Parsed}
    (h : read zones text format = .ok parsed) : parsed.offsetMicros.isSome ↔ AsksOffset format := by
  unfold read at h
  obtain ⟨tokens, found, h⟩ := except_bind_eq_ok.mp h
  split at h
  · cases h
  · rename_i texts rest first
    split at h
    · obtain ⟨fields, taken, resolved⟩ := except_bind_eq_ok.mp h
      rw [Fields.offsetMicros_of_resolve resolved, Fields.isSome_foldlM_iff taken,
        Token.directives_of_firstMatch first, Token.mem_filterMap_directive?]
      simp [AsksOffset, found]
    · cases h

end CivilTime.Pattern
