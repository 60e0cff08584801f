/-
  CivilTime.Text.Blank — the characters that separate words: the ASCII controls from tab to
  carriage return and from the file separator to the space, and the spaces and line breaks of
  other scripts.
-/

namespace CivilTime.Text

/-- The runs of blank characters, each with its first and last. -/
def blankRuns : List (Nat × Nat) := [
  (0x9, 0xd), (0x1c, 0x20), (0x85, 0x85), (0xa0, 0xa0), (0x1680, 0x1680), (0x2000, 0x200a),
  (0x2028, 0x2029), (0x202f, 0x202f), (0x205f, 0x205f), (0x3000, 0x3000)]

def isBlank (c : Char) : Bool := blankRuns.any fun r => r.1 ≤ c.toNat && c.toNat ≤ r.2

/-- Every character that is white space by the ASCII rule is blank. -/
theorem isBlank_of_isWhitespace {c : Char} (h : c.isWhitespace) : isBlank c := by
  simp only [Char.isWhitespace, Bool.or_eq_true, decide_eq_true_eq] at h
  rcases h with ((rfl | rfl) | rfl) | rfl <;> decide

end CivilTime.Text
