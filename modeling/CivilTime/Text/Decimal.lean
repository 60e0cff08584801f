/-
  CivilTime.Text.Decimal — numbers written with a fixed count of decimal digits.
-/

namespace CivilTime.Text

def digit (n : Nat) : Char := Char.ofNat (0x30 + n % 10)

/-- The last `w` decimal places of a number, zeros in front. -/
def decimal : Nat → Nat → List Char
  | 0, _ => []
  | w + 1, n => decimal w (n / 10) ++ [digit n]

@[simp] theorem length_decimal (w n : Nat) : (decimal w n).length = w := by
  induction w generalizing n with
  | zero => rfl
  | succ w ih => simp [decimal, ih]

end CivilTime.Text
