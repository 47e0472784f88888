import Tabletop.Text.Decimal

/-!
# Dice terms

A dice formula is a list of terms: groups of equal dice with a sign, such as the `2d6` in `2d6+3`,
and flat modifiers whose sign is part of their value.

The bounds `maxDiceCount`, `maxDieSides` and `maxFlat` are those a formula typed as text has to
respect; `Term.Admissible` collects them.  Terms made in other ways may have any 32-bit size.
-/

namespace Tabletop.Dice

open Tabletop.Text

/-- The largest number of dice in one term of a written formula. -/
def maxDiceCount : Nat := 1000

/-- The largest die of a written formula. -/
def maxDieSides : Nat := 1000

/-- The largest magnitude of a flat modifier of a written formula. -/
def maxFlat : Nat := 1000000

/-- The sign of a term. -/
inductive Sign
  | plus | minus
deriving DecidableEq, Repr, Inhabited

/-- A value under a sign. -/
def Sign.apply : Sign → Int32 → Int32
  | .plus, value => value
  | .minus, value => -value

/-- The character that stands for a sign. -/
def Sign.symbol : Sign → Char
  | .plus => '+'
  | .minus => '-'

/-- A group of equal dice, added or subtracted. -/
structure DiceTerm where
  /-- How many dice. -/
  count : UInt32
  /-- How many sides each of them has. -/
  sides : UInt32
  /-- Whether their sum is added or subtracted. -/
  sign : Sign
deriving DecidableEq, Repr, Inhabited

namespace DiceTerm

/-- The characters of the unsigned label of a group of dice, such as `2d6`. -/
def labelChars (d : DiceTerm) : List Char :=
  digits d.count.toNat ++ 'd' :: digits d.sides.toNat

/-- The unsigned label of a group of dice, such as `2d6`. -/
def label (d : DiceTerm) : String :=
  String.ofList d.labelChars

/-- Whether the group is one twenty-sided die. -/
def isSingleD20 (d : DiceTerm) : Bool :=
  d.count == 1 && d.sides == 20

/-- The same dice subtracted. -/
def negated (d : DiceTerm) : DiceTerm :=
  { d with sign := .minus }

end DiceTerm

/-- One term of a formula. -/
inductive Term
  /-- A group of dice. -/
  | dice (d : DiceTerm)
  /-- A constant with its sign. -/
  | flat (value : Int32)
deriving DecidableEq, Repr, Inhabited

/-- Whether a term is within the bounds of written formulas. -/
def Term.Admissible : Term → Prop
  | .dice d => (1 ≤ d.count.toNat ∧ d.count.toNat ≤ maxDiceCount) ∧
      1 ≤ d.sides.toNat ∧ d.sides.toNat ≤ maxDieSides
  | .flat value => value.toInt.natAbs ≤ maxFlat

instance (t : Term) : Decidable t.Admissible := by
  cases t <;> unfold Term.Admissible <;> infer_instance

end Tabletop.Dice
