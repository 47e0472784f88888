import Tabletop.Rules.Tag
import Tabletop.Sheet.Ability

/-!
# Abilities that apply to an action

An ability applies to an action when it has an effect and one of its triggers matches a tag of the
action.  How it applies depends on its kind: passive abilities and active lasting ones apply by
themselves, instant ones with uses left are offered to the player.
-/

namespace Tabletop.Rules

open Tabletop.Sheet

/-- The abilities that apply to an action, by how they apply.  Each list is in roster order. -/
structure ApplicableEffects where
  /-- Passive abilities, which always apply. -/
  passives : List Ability
  /-- Lasting abilities that are active. -/
  actives : List Ability
  /-- Instant abilities the player may choose. -/
  available : List Ability
deriving Repr

/-- Whether an ability has an effect and is triggered by an action with the given tags. -/
def isTriggered (tags : List String) (a : Ability) : Bool :=
  a.effect.isSome && matchesAnyTrigger tags a.trigger

/-- Whether an ability is instant, with limited uses and at least one left. -/
def isAvailable (a : Ability) : Bool :=
  a.kind == .instant && (match a.uses with | some u => !u.isEmpty | none => false)

/-- The abilities of a roster that apply to an action with the given tags. -/
def applicableEffects (tags : List String) (roster : List Ability) : ApplicableEffects :=
  let triggered := roster.filter (isTriggered tags)
  { passives := triggered.filter fun a => a.kind == .passive
    actives := triggered.filter Ability.isRunning
    available := triggered.filter isAvailable }

namespace ApplicableEffects

/-- Whether no ability applies. -/
def isEmpty (e : ApplicableEffects) : Bool :=
  e.passives.isEmpty && e.actives.isEmpty && e.available.isEmpty

/-- The abilities that apply without being chosen. -/
def automatic (e : ApplicableEffects) : List Ability :=
  e.passives ++ e.actives

end ApplicableEffects

end Tabletop.Rules
