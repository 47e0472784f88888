/-!
# Pools

A pool is a counter with a maximum: the uses left of an ability, or the turns left of an effect.
Every operation keeps a pool within its maximum that was so before; `Pool.Bounded` is that property.
Saved sheets are read through `Pool.clamped`, so their pools are within bounds too.
-/

namespace Tabletop.Sheet

/-- A counter with a maximum. -/
structure Pool where
  /-- What is left. -/
  current : UInt32
  /-- What there is when full. -/
  max : UInt32
deriving DecidableEq, Repr

namespace Pool

/-- Whether a pool holds no more than its maximum. -/
def Bounded (p : Pool) : Prop :=
  p.current ≤ p.max

instance (p : Pool) : Decidable p.Bounded := by
  unfold Bounded
  infer_instance

/-- A full pool. -/
def full (max : UInt32) : Pool :=
  ⟨max, max⟩

/-- An empty pool. -/
def empty (max : UInt32) : Pool :=
  ⟨0, max⟩

/-- Whether nothing is left. -/
def isEmpty (p : Pool) : Bool :=
  p.current == 0

/-- The pool with another value, lowered to the maximum if it is greater. -/
def set (p : Pool) (value : UInt32) : Pool :=
  { p with current := if value ≤ p.max then value else p.max }

/-- The pool lowered to its maximum if it holds more. -/
def clamped (p : Pool) : Pool :=
  p.set p.current

/-- The pool with one taken from it; an empty pool stays empty. -/
def spend (p : Pool) : Pool :=
  if p.current = 0 then p else { p with current := p.current - 1 }

/-- The pool filled up. -/
def refill (p : Pool) : Pool :=
  { p with current := p.max }

/-- The pool emptied. -/
def drain (p : Pool) : Pool :=
  { p with current := 0 }

theorem bounded_set (p : Pool) (value : UInt32) : (p.set value).Bounded := by
  unfold set Bounded
  split
  · assumption
  · exact UInt32.le_refl _

theorem bounded_refill (p : Pool) : p.refill.Bounded :=
  UInt32.le_refl _

theorem bounded_drain (p : Pool) : p.drain.Bounded :=
  UInt32.zero_le

end Pool

end Tabletop.Sheet
