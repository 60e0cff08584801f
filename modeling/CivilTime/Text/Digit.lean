/-
  CivilTime.Text.Digit — decimal digits of all scripts, and the number that a run of them writes.
  Each script has its ten digits in order, so a digit's value is its distance, modulo ten, from
  the start of its run. The table is that of version 14 of the Unicode standard.

  `number_decimal`: reading the decimal places of a number gives it back.
-/

import CivilTime.Text.Decimal

namespace CivilTime.Text

def digitRuns : Array (Nat × Nat) := #[
  (0x30, 0x39), (0x660, 0x669), (0x6f0, 0x6f9), (0x7c0, 0x7c9), (0x966, 0x96f), (0x9e6, 0x9ef),
  (0xa66, 0xa6f), (0xae6, 0xaef), (0xb66, 0xb6f), (0xbe6, 0xbef), (0xc66, 0xc6f), (0xce6, 0xcef),
  (0xd66, 0xd6f), (0xde6, 0xdef), (0xe50, 0xe59), (0xed0, 0xed9), (0xf20, 0xf29), (0x1040, 0x1049),
  (0x1090, 0x1099), (0x17e0, 0x17e9), (0x1810, 0x1819), (0x1946, 0x194f), (0x19d0, 0x19d9),
  (0x1a80, 0x1a89), (0x1a90, 0x1a99), (0x1b50, 0x1b59), (0x1bb0, 0x1bb9), (0x1c40, 0x1c49),
  (0x1c50, 0x1c59), (0xa620, 0xa629), (0xa8d0, 0xa8d9), (0xa900, 0xa909), (0xa9d0, 0xa9d9),
  (0xa9f0, 0xa9f9), (0xaa50, 0xaa59), (0xabf0, 0xabf9), (0xff10, 0xff19), (0x104a0, 0x104a9),
  (0x10d30, 0x10d39), (0x11066, 0x1106f), (0x110f0, 0x110f9), (0x11136, 0x1113f), (0x111d0, 0x111d9),
  (0x112f0, 0x112f9), (0x11450, 0x11459), (0x114d0, 0x114d9), (0x11650, 0x11659), (0x116c0, 0x116c9),
  (0x11730, 0x11739), (0x118e0, 0x118e9), (0x11950, 0x11959), (0x11c50, 0x11c59), (0x11d50, 0x11d59),
  (0x11da0, 0x11da9), (0x16a60, 0x16a69), (0x16ac0, 0x16ac9), (0x16b50, 0x16b59), (0x1d7ce, 0x1d7ff),
  (0x1e140, 0x1e149), (0x1e2f0, 0x1e2f9), (0x1e950, 0x1e959), (0x1fbf0, 0x1fbf9)]

/-- The value of a decimal digit of any script. -/
def digitValue? (c : Char) : Option Nat :=
  let n := c.toNat
  if n < 0x80 then
    if 0x30 ≤ n && n ≤ 0x39 then some (n - 0x30) else none
  else (digitRuns.find? fun r => r.1 ≤ n && n ≤ r.2).map fun r => (n - r.1) % 10

def isDigit (c : Char) : Bool := (digitValue? c).isSome

/-- The number that decimal digits write; characters that are no digits are passed over. -/
def number (cs : List Char) : Int :=
  (cs.filterMap digitValue?).foldl (fun (n : Int) (d : Nat) => 10 * n + d) 0

theorem digitValue?_of_isDigit {c : Char} (h : c.isDigit) : digitValue? c = some (c.toNat - 0x30) := by
  simp only [Char.isDigit, Bool.and_eq_true, decide_eq_true_eq] at h
  have lo : 48 ≤ c.toNat := by simpa [UInt32.le_iff_toNat_le] using h.1
  have hi : c.toNat ≤ 57 := by simpa [UInt32.le_iff_toNat_le] using h.2
  have ascii : c.toNat < 0x80 := by omega
  simp [digitValue?, lo, hi, ascii]

theorem digitValue?_digit (n : Nat) : digitValue? (digit n) = some (n % 10) := by
  have all : ∀ k < 10, digitValue? (Char.ofNat (0x30 + k)) = some k := by decide
  exact all (n % 10) (Nat.mod_lt n (by decide))

theorem number_append_digit (cs : List Char) (n : Nat) :
    number (cs ++ [digit n]) = 10 * number cs + (n % 10 : Nat) := by
  simp [number, List.filterMap_append, digitValue?_digit]

/-- The last `w` decimal places of a number are read as the number modulo a power of ten. -/
theorem number_decimal (w n : Nat) : number (decimal w n) = (n % Nat.pow 10 w : Nat) := by
  induction w generalizing n with
  | zero => simp [decimal, number, Nat.mod_one]
  | succ w ih =>
    have power : Nat.pow 10 (w + 1) = 10 * Nat.pow 10 w := Nat.mul_comm (Nat.pow 10 w) 10
    rw [decimal, number_append_digit, ih, power, Nat.mod_mul]
    generalize n / 10 % Nat.pow 10 w = k
    omega

end CivilTime.Text
