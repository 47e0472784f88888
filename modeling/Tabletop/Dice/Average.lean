import Tabletop.Dice.Formula

/-!
# Expected values

The expected value of a group of dice is its count times half of one more than its sides.  The
expected value of a formula is the sum over its terms, rounded to one decimal place.  It is shown
with exactly one decimal place by `oneDecimal`, which works on the exact value of the
floating-point number: a value between two tenths goes to the nearer one, a value half way to the
even one, and zero has no sign.
-/

namespace Tabletop.Dice

open Tabletop.Text

/-- The expected value of a group of dice. -/
def DiceTerm.average (d : DiceTerm) : Float :=
  let value := d.count.toNat.toFloat * (d.sides.toNat.toFloat + 1.0) / 2.0
  match d.sign with
  | .plus => value
  | .minus => -value

/-- The expected value of a term. -/
def Term.average : Term → Float
  | .dice d => d.average
  | .flat value => Float.ofInt value.toInt

/-- The expected value of a formula, rounded to one decimal place. -/
def Formula.average (f : Formula) : Float :=
  let exact := f.terms.foldl (fun total term => total + term.average) 0.0
  (exact * 10.0).round / 10.0

/-- The quotient of two numbers rounded to the nearest integer, half way to the even one. -/
def roundHalfEven (dividend divisor : Nat) : Nat :=
  let quotient := dividend / divisor
  let rest := 2 * (dividend % divisor)
  if rest < divisor then quotient
  else if divisor < rest then quotient + 1
  else quotient + quotient % 2

/-- The magnitude of a finite floating-point number in tenths, from its bits: a significand of 53
bits times a power of two. -/
def tenths (bits : Nat) : Nat :=
  let exponent := (bits >>> 52) % 2048
  let fraction := bits % 1 <<< 52
  let significand := if exponent = 0 then fraction else fraction + 1 <<< 52
  let shift := if exponent = 0 then 1 else exponent
  if 1075 ≤ shift then (significand * 10) <<< (shift - 1075)
  else roundHalfEven (significand * 10) (1 <<< (1075 - shift))

/-- A finite floating-point number with one decimal place. -/
def oneDecimal (value : Float) : String :=
  let bits := value.toBits.toNat
  let count := tenths bits
  let magnitude := ofNat (count / 10) ++ "." ++ ofNat (count % 10)
  if 1 <<< 63 ≤ bits ∧ count ≠ 0 then "-" ++ magnitude else magnitude

end Tabletop.Dice
