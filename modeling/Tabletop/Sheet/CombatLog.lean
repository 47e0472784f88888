import Tabletop.Dice.D20
import Tabletop.Grouping
import Tabletop.Identifier
import Tabletop.Text.Decimal
import Tabletop.Time.Instant

/-!
# The combat log

What happened to a character, as a list of entries that only grows at its end.  An entry is stamped
with the turn it belongs to; entries are grouped by turn when they are read, not when they are
written.
-/

namespace Tabletop.Sheet

open Tabletop.Dice Tabletop.Text Tabletop.Time

/-- The kinds of rest. -/
inductive RestKind
  | short | long
deriving DecidableEq, Repr, Inhabited

/-- The name of a rest. -/
def RestKind.name : RestKind → String
  | .short => "Short Rest"
  | .long => "Long Rest"

/-- The turns an effect has left after a turn ended. -/
structure EffectUpdate where
  /-- The name of the ability. -/
  name : String
  /-- Turns left. -/
  remaining : UInt32
deriving DecidableEq, Repr

/-- Damage of one type. -/
structure DamageByType where
  damageType : String
  amount : Int32
deriving DecidableEq, Repr

/-- The damage of a hit. -/
structure DamageRecord where
  /-- The formula that was rolled. -/
  formula : String
  /-- The damage dealt. -/
  result : Int32
  /-- The roll of each source. -/
  breakdown : String
  critical : Bool
  /-- The damage by type. -/
  types : List DamageByType
deriving DecidableEq, Repr

/-- An attack. -/
structure AttackRecord where
  weapon : String
  mode : RollMode
  /-- The result of the die that counted. -/
  d20 : UInt32
  modifier : Int32
  total : Int32
  /-- The armor class it was rolled against. -/
  targetAc : Int32
  hit : Bool
  critical : Bool
  /-- The names of the abilities that applied. -/
  effectsApplied : List String
  /-- The damage, if it hit. -/
  damage : Option DamageRecord
deriving DecidableEq, Repr

/-- What happened. -/
inductive LogEvent
  /-- An attack was made. -/
  | attack (record : AttackRecord)
  /-- An instant ability was used. -/
  | abilityUsed (ability : String) (resourcesUsed : List AbilityId)
  /-- A lasting ability was activated for a number of turns. -/
  | abilityActivated (ability : String) (duration : UInt32) (resourcesUsed : List AbilityId)
  /-- A lasting ability was ended early. -/
  | abilityDeactivated (ability : String)
  /-- A turn ended. -/
  | endTurn (effectsUpdated : List EffectUpdate)
  /-- A rest was taken. -/
  | rest (kind : RestKind)
deriving DecidableEq, Repr

/-- How an attack went. -/
def AttackRecord.outcomeText (r : AttackRecord) : String :=
  if r.critical then ", critical hit" else if r.hit then ", hit" else ", miss"

/-- The shown form of an event. -/
def LogEvent.text : LogEvent → String
  | .attack r =>
    let damage := match r.damage with
      | some d => " for " ++ ofInt d.result.toInt ++ " damage"
      | none => ""
    "Attacked with " ++ r.weapon ++ " (" ++ ofInt r.total.toInt ++ ")" ++ r.outcomeText ++ damage
  | .abilityUsed ability _ => "Used " ++ ability
  | .abilityActivated ability duration _ =>
    "Activated " ++ ability ++ " for " ++ ofNat duration.toNat ++ " turns"
  | .abilityDeactivated ability => "Deactivated " ++ ability
  | .endTurn updates =>
    "Ended turn" ++ join "" (updates.map fun u =>
      "; " ++ u.name ++ ": " ++ ofNat u.remaining.toNat ++ " turns left")
  | .rest kind => kind.name

/-- What makes a new log entry distinct: a fresh identifier and the time of writing. -/
structure Stamp where
  entry : LogEntryId
  time : Instant
deriving DecidableEq, Repr

/-- An entry of a combat log. -/
structure LogEntry where
  id : LogEntryId
  /-- The turn it belongs to. -/
  turn : UInt32
  timestamp : Instant
  event : LogEvent
deriving DecidableEq, Repr

/-- The entry of an event in a turn. -/
def LogEntry.ofEvent (stamp : Stamp) (turn : UInt32) (event : LogEvent) : LogEntry :=
  ⟨stamp.entry, turn, stamp.time, event⟩

/-- A combat log. -/
structure CombatLog where
  /-- The entries, oldest first. -/
  entries : List LogEntry
deriving DecidableEq, Repr

namespace CombatLog

/-- The log without entries. -/
def empty : CombatLog :=
  ⟨[]⟩

/-- The log with one more entry. -/
def append (log : CombatLog) (entry : LogEntry) : CombatLog :=
  ⟨log.entries ++ [entry]⟩

/-- The newest entry. -/
def last? (log : CombatLog) : Option LogEntry :=
  log.entries.getLast?

/-- The number of entries. -/
def size (log : CombatLog) : Nat :=
  log.entries.length

/-- Whether there are no entries. -/
def isEmpty (log : CombatLog) : Bool :=
  log.entries.isEmpty

/-- The entries by turn, turns in order of their first entry. -/
def byTurn (log : CombatLog) : List (UInt32 × List LogEntry) :=
  groupInOrder LogEntry.turn log.entries

end CombatLog

end Tabletop.Sheet
