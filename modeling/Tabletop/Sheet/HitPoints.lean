/-!
# Hit points

Hit points are a current value, a maximum and temporary hit points that take damage first.  Negative
amounts of damage, healing and temporary hit points count as none.
-/

namespace Tabletop.Sheet

/-- The hit points of a character. -/
structure HitPoints where
  /-- Hit points left. -/
  current : Int32
  /-- Hit points when unhurt. -/
  maximum : Int32
  /-- Hit points that are lost first and cannot be healed. -/
  temporary : Int32
deriving DecidableEq, Repr

/-- What damage did. -/
structure DamageTaken where
  /-- The damage dealt, absorbed or not. -/
  amount : Int32
  /-- Whether no hit points are left. -/
  droppedToZero : Bool
deriving DecidableEq, Repr

namespace HitPoints

/-- Unhurt, with the given maximum. -/
def full (maximum : Int32) : HitPoints :=
  ⟨maximum, maximum, 0⟩

/-- The hit points of a new character. -/
def default : HitPoints :=
  full 10

/-- The hit points after damage: temporary ones absorb what they can, and the others stop at
zero. -/
def takeDamage (hp : HitPoints) (amount : Int32) : HitPoints × DamageTaken :=
  let dealt := max amount 0
  let absorbed := if 0 < hp.temporary then min dealt hp.temporary else 0
  let current := max (hp.current - (dealt - absorbed)) 0
  ({ hp with current := current, temporary := hp.temporary - absorbed }, ⟨dealt, current == 0⟩)

/-- The hit points after healing, which stops at the maximum, and the amount healed. -/
def heal (hp : HitPoints) (amount : Int32) : HitPoints × Int32 :=
  let current := min (hp.current + max amount 0) hp.maximum
  ({ hp with current := current }, current - hp.current)

/-- The hit points after gaining temporary ones, which do not add up: the greater value stays. -/
def addTemporary (hp : HitPoints) (amount : Int32) : HitPoints :=
  { hp with temporary := max hp.temporary amount }

/-- The hit points with the current value replaced, brought between zero and the maximum; `none`
when the maximum is negative, because there is no such value. -/
def setCurrent? (hp : HitPoints) (value : Int32) : Option HitPoints :=
  if hp.maximum < 0 then none
  else some { hp with current := max 0 (min value hp.maximum) }

/-- The hit points after a long rest. -/
def restore (hp : HitPoints) : HitPoints :=
  { hp with current := hp.maximum, temporary := 0 }

/-- Whether no hit points are left. -/
def isDown (hp : HitPoints) : Bool :=
  hp.current ≤ 0

end HitPoints

end Tabletop.Sheet
