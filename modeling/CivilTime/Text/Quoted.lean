/-
  CivilTime.Text.Quoted — a text between quotes. Single quotes are used unless the text has a
  single quote and no double one. The quote in use, the backslash and every character that is not
  printable are escaped.
-/

import CivilTime.Text.Printable

namespace CivilTime.Text

def hexadecimal : Nat → Nat → List Char
  | 0, _ => []
  | w + 1, n => hexadecimal w (n / 16) ++ [Nat.digitChar (n % 16)]

def escape (q c : Char) : List Char :=
  if c = q ∨ c = '\\' then ['\\', c]
  else if c = '\t' then ['\\', 't']
  else if c = '\n' then ['\\', 'n']
  else if c = '\r' then ['\\', 'r']
  else if isPrintable c then [c]
  else if c.toNat ≤ 0xff then '\\' :: 'x' :: hexadecimal 2 c.toNat
  else if c.toNat ≤ 0xffff then '\\' :: 'u' :: hexadecimal 4 c.toNat
  else '\\' :: 'U' :: hexadecimal 8 c.toNat

def quoted (s : String) : String :=
  let q := if s.toList.contains '\'' && !s.toList.contains '"' then '"' else '\''
  String.ofList (q :: s.toList.flatMap (escape q) ++ [q])

end CivilTime.Text
