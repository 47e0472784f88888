/-!
# Preferences

How a player wants the sheet to behave.
-/

namespace Tabletop.Sheet

/-- Where die results come from. -/
inductive DiceEntry
  /-- They are rolled for the player. -/
  | virtual
  /-- The player enters them. -/
  | manual
deriving DecidableEq, Repr, Inhabited

/-- What a rest does to the combat log. -/
inductive LogRetention
  | keep | clearOnRest
deriving DecidableEq, Repr, Inhabited

/-- A player's preferences. -/
structure Preferences where
  diceEntry : DiceEntry
  autoAdvanceToDamage : Bool
  confirmHit : Bool
  logRetention : LogRetention
deriving DecidableEq, Repr

/-- The preferences of a new character. -/
def Preferences.default : Preferences :=
  ⟨.virtual, true, true, .keep⟩

end Tabletop.Sheet
