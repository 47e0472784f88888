import Tabletop.Dice.D20
import Tabletop.Sheet.Preferences

/-!
# Session settings

What a session assumes unless an attack says otherwise, where its character is saved, and whether it
overrides the character's own preference about the combat log.
-/

namespace Tabletop.Play

open Tabletop.Dice Tabletop.Sheet

/-- The settings of a session. -/
structure SessionConfig where
  /-- The armor class of targets. -/
  targetAc : Int32
  /-- How attacks are rolled. -/
  rollMode : RollMode
  /-- What rests do to the log, if the session decides it. -/
  logRetention : Option LogRetention
  /-- The directory of saved characters. -/
  saveDir : String
deriving DecidableEq, Repr

/-- The settings of a session that gives none. -/
def SessionConfig.default : SessionConfig :=
  ⟨10, .normal, none, "saves"⟩

end Tabletop.Play
