import Tabletop.Text.Decimal

/-!
# Decimals beyond the doubles

A double has 53 significant bits and is less than 2 to the 1024.  `nearestDouble` rounds a natural
number to so many bits, and `doubleBound` is where rounded numbers leave the range.  Both are exact
numbers, so that nothing here depends on the arithmetic of a machine.
-/

namespace Tabletop.Text

/-- The least number that is rounded to a value beyond the doubles: halfway between the greatest
double and 2 to the 1024. -/
def doubleBound : Nat :=
  1 <<< 1024 - 1 <<< 970

/-- A natural number rounded to 53 significant bits; halfway between two candidates the even one is
taken. -/
def nearestDouble (n : Nat) : Nat :=
  let unit := 1 <<< (n.log2 - 52)
  let quotient := n / unit
  let rest := n % unit
  if unit < 2 * rest ∨ unit = 2 * rest ∧ quotient % 2 = 1 then (quotient + 1) * unit
  else quotient * unit

/-- Whether digits times a power of ten are rounded to a value beyond the doubles. -/
def overflowsDouble (digits : List Char) (exponent : Int) : Bool :=
  let significant := digits.dropWhile (· == '0')
  let magnitude := (significant.length : Int) + exponent
  if significant.isEmpty || magnitude < 309 then false
  else if 309 < magnitude then true
  else if 0 ≤ exponent then doubleBound ≤ numeralValue significant * tenTo exponent.toNat
  else doubleBound * tenTo exponent.natAbs ≤ numeralValue significant

end Tabletop.Text
