import Tabletop.Dice.Source

/-!
# Random dice

`RandomDice` is the source for play: its results are those of a pseudo-random generator, which is
started from a seed and carried along, so that a run can be repeated.
-/

namespace Tabletop.Dice

/-- A die source of pseudo-random results. -/
structure RandomDice where
  /-- The generator of the next result. -/
  generator : StdGen

namespace RandomDice

/-- A source started from a seed. -/
def ofSeed (seed : Nat) : RandomDice :=
  ⟨mkStdGen seed⟩

/-- The next result and the source after it; a die without sides shows one. -/
def next (dice : RandomDice) (sides : UInt32) : UInt32 × RandomDice :=
  let (n, generator) := randNat dice.generator 1 (max 1 sides.toNat)
  (clampToDie sides (UInt32.ofNat n), ⟨generator⟩)

end RandomDice

instance : DieSource RandomDice where
  roll sides dice := dice.next sides

end Tabletop.Dice
