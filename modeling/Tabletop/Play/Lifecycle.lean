import Tabletop.Sheet.Character

/-!
# The life of abilities

Granting, using, activating, deactivating and removing abilities, ending turns and resting.  Every
operation takes a character and gives the character after it; a rejected one gives the reason
instead.

## Identifiers and times

What has to be new is given to an operation: the identifier of a granted ability or of a new active
effect, and the `Stamp` of the log entry it writes.

## Log entries

Using, activating, deactivating, ending a turn and resting write exactly one entry, which is part of
the `Transition` they give.  Granting and removing write none.
-/

namespace Tabletop.Play

open Tabletop.Sheet

/-- A character after an operation, and the log entry about it. -/
structure Transition where
  /-- The character, whose log ends in the entry. -/
  character : Character
  entry : LogEntry
deriving DecidableEq, Repr

/-- The character with an event written to its log, in the turn it is in. -/
def record (c : Character) (stamp : Stamp) (event : LogEvent) : Transition :=
  let entry := LogEntry.ofEvent stamp c.turn event
  ⟨{ c with combatLog := c.combatLog.append entry }, entry⟩

/-- The ability with an identifier, or the error that there is none. -/
def findAbility (c : Character) (id : AbilityId) : Except UsageError Ability :=
  match c.ability? id with
  | some a => .ok a
  | none => .error (.abilityNotFound id)

/-! ## The roster -/

/-- The character with one more ability, in its fresh state and under a new identifier. -/
def addAbility (c : Character) (id : AbilityId) (a : Ability) : Character :=
  { c with abilities := c.abilities ++ [{ a.fresh with id := id }] }

/-- The character without an ability and its effects. -/
def removeAbility (c : Character) (id : AbilityId) : Except UsageError Character :=
  match findAbility c id with
  | .error e => .error e
  | .ok _ => .ok { c.dropEffects id with abilities := c.abilities.filter fun a => a.id != id }

/-! ## Use -/

/-- The ability with an identifier, provided that it is of the expected kind and can be used. -/
def readyAbility (c : Character) (id : AbilityId) (kind : AbilityKind) :
    Except UsageError Ability := do
  let a ← findAbility c id
  a.expectKind kind
  a.checkUsable
  return a

/-- Spends one use of an instant ability. -/
def useAbility (c : Character) (id : AbilityId) (stamp : Stamp) : Except UsageError Transition :=
  match readyAbility c id .instant with
  | .error e => .error e
  | .ok a => .ok (record (c.updateAbility id Ability.spendUse) stamp (.abilityUsed a.name [id]))

/-- Activates a lasting ability: spends a use, starts the countdown and creates its effect. -/
def activateAbility (c : Character) (id : AbilityId) (effect : EffectId) (stamp : Stamp) :
    Except UsageError Transition :=
  match readyAbility c id .duration with
  | .error e => .error e
  | .ok a =>
    let live := ActiveEffect.ofAbility effect a.start
    let started := (c.updateAbility id Ability.start).dropEffects id
    .ok (record { started with activeEffects := started.activeEffects ++ [live] } stamp
      (.abilityActivated a.name live.duration.max [id]))

/-- The lasting ability with an identifier, provided that it is active. -/
def activeAbility (c : Character) (id : AbilityId) : Except UsageError Ability := do
  let a ← findAbility c id
  a.expectKind .duration
  if a.active then return a else throw (.notActive a.name)

/-- Ends a lasting ability early. -/
def deactivateAbility (c : Character) (id : AbilityId) (stamp : Stamp) :
    Except UsageError Transition :=
  match activeAbility c id with
  | .error e => .error e
  | .ok a =>
    .ok (record ((c.updateAbility id Ability.stop).dropEffects id) stamp
      (.abilityDeactivated a.name))

/-! ## Turns -/

/-- An ability after one more turn; only active lasting abilities count turns. -/
def tickAbility (a : Ability) : Ability :=
  if a.isRunning then a.tick else a

/-- The log's account of an ability's last turn. -/
def tickUpdate (a : Ability) : EffectUpdate :=
  ⟨a.name, a.turnsAfterTick⟩

/-- An effect brought in step with its source; without an active source it is gone. -/
def followSource (abilities : List Ability) (e : ActiveEffect) : Option ActiveEffect :=
  match abilities.find? fun a => a.id == e.source with
  | some a => if a.active then some { e with duration := e.duration.set a.turnsRemaining } else none
  | none => none

/-- Ends a turn: every active lasting ability has one turn less, those without turns left end, and
the turn counter goes up. -/
def endTurn (c : Character) (stamp : Stamp) : Transition :=
  let abilities := c.abilities.map tickAbility
  let updates := (c.abilities.filter Ability.isRunning).map tickUpdate
  record
    { c with
      abilities := abilities
      activeEffects := c.activeEffects.filterMap (followSource abilities)
      turn := c.turn + 1 }
    stamp (.endTurn updates)

/-! ## Rests -/

/-- Whether a rest gives back the uses of an ability with the given recharge. -/
def rechargesOn (recharge : Recharge) : RestKind → Bool
  | .short => recharge == .shortRest
  | .long => true

/-- An ability after a rest: fresh if the rest recharges it, and inactive in any case. -/
def restAbility (kind : RestKind) (a : Ability) : Ability :=
  if rechargesOn a.recharge kind then a.fresh else if a.active then a.stop else a

/-- The log a rest leaves to write to. -/
def logForRest (c : Character) : CombatLog :=
  match c.preferences.logRetention with
  | .keep => c.combatLog
  | .clearOnRest => .empty

/-- Takes a rest: abilities recharge and end, effects are gone, the turn counter starts again, and a
long rest restores the hit points. -/
def takeRest (c : Character) (kind : RestKind) (stamp : Stamp) : Transition :=
  record
    { c with
      abilities := c.abilities.map (restAbility kind)
      activeEffects := []
      turn := 0
      hitPoints := if kind = .long then c.hitPoints.restore else c.hitPoints
      combatLog := logForRest c }
    stamp (.rest kind)

/-- The character with an empty log, at the start of the turn count. -/
def clearCombatLog (c : Character) : Character :=
  { c with combatLog := .empty, turn := 0 }

end Tabletop.Play
