/-!
# Hexadecimal digits

Identifiers and escaped characters are written with hexadecimal digits, which may be of either case
when they are read.
-/

namespace Tabletop.Text

/-- The value of a hexadecimal digit of either case. -/
def hexValue? (c : Char) : Option Nat :=
  if c.isDigit then some (c.toNat - 48)
  else if 'a' ≤ c ∧ c ≤ 'f' then some (c.toNat - 87)
  else if 'A' ≤ c ∧ c ≤ 'F' then some (c.toNat - 55)
  else none

end Tabletop.Text
