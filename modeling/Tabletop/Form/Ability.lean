import Tabletop.Form.Basic
import Tabletop.Sheet.Ability

/-!
# Forms of abilities

How abilities, their effects and pools stand in a saved sheet.  A pool that holds more than its
maximum is read as full.
-/

namespace Tabletop.Sheet

open Tabletop.Json (tag tagged? record? uint32? int32? str? bool? list? enum? nullable ofUInt32
  ofInt32 ofOption)

/-! ## Kinds -/

/-- The kinds of abilities in order. -/
def AbilityKind.all : List AbilityKind :=
  [.passive, .instant, .duration]

/-- The form of a kind. -/
def AbilityKind.toJson (k : AbilityKind) : Json :=
  .str k.name

/-- Reads a kind. -/
def AbilityKind.ofJson? : Json → Option AbilityKind :=
  enum? AbilityKind.all AbilityKind.name

/-- The ways of recharging in order. -/
def Recharge.all : List Recharge :=
  [.shortRest, .longRest, .dawn, .manual]

/-- The name of a way of recharging. -/
def Recharge.key : Recharge → String
  | .shortRest => "short-rest"
  | .longRest => "long-rest"
  | .dawn => "dawn"
  | .manual => "manual"

/-- The form of a way of recharging. -/
def Recharge.toJson (r : Recharge) : Json :=
  .str r.key

/-- Reads a way of recharging. -/
def Recharge.ofJson? : Json → Option Recharge :=
  enum? Recharge.all Recharge.key

/-! ## Pools and effects -/

/-- The form of a pool. -/
def Pool.toJson (p : Pool) : Json :=
  .obj [("current", ofUInt32 p.current), ("max", ofUInt32 p.max)]

/-- Reads a pool, lowered to its maximum. -/
def Pool.ofJson? (j : Json) : Option Pool := do
  let slot ← record? ["current", "max"] j
  let current ← (slot "current").required uint32?
  let max ← (slot "max").required uint32?
  return (Pool.mk current max).clamped

/-- The form of a damage bonus. -/
def DamageBonus.toJson : DamageBonus → Json
  | .dice formula => tag "kind" "dice" [("notation", .str formula)]
  | .flat value => tag "kind" "flat" [("value", ofInt32 value)]

/-- Reads a damage bonus. -/
def DamageBonus.ofJson? (j : Json) : Option DamageBonus := do
  let (kind, fields) ← tagged? "kind" j
  if kind = "dice" then
    let slot ← record? ["notation"] fields
    let formula ← (slot "notation").required str?
    return .dice formula
  else if kind = "flat" then
    let slot ← record? ["value"] fields
    let value ← (slot "value").required int32?
    return .flat value
  else none

/-- The form of an effect. -/
def AbilityEffect.toJson (e : AbilityEffect) : Json :=
  .obj [("description", ofOption .str e.description),
    ("damage_bonus", ofOption DamageBonus.toJson e.damageBonus),
    ("damage_type", ofOption .str e.damageType),
    ("attack_bonus", ofOption ofInt32 e.attackBonus),
    ("resistances", Json.ofList .str e.resistances)]

/-- Reads an effect; every field may be left out. -/
def AbilityEffect.ofJson? (j : Json) : Option AbilityEffect := do
  let slot ← record?
    ["description", "damage_bonus", "damage_type", "attack_bonus", "resistances"] j
  let description ← (slot "description").withDefault none (nullable str?)
  let damageBonus ← (slot "damage_bonus").withDefault none (nullable DamageBonus.ofJson?)
  let damageType ← (slot "damage_type").withDefault none (nullable str?)
  let attackBonus ← (slot "attack_bonus").withDefault none (nullable int32?)
  let resistances ← (slot "resistances").withDefault [] (list? str?)
  return ⟨description, damageBonus, damageType, attackBonus, resistances⟩

/-! ## Abilities -/

/-- The members of an ability after its identifier. -/
def Ability.members (a : Ability) : List (String × Json) :=
  [("name", .str a.name), ("kind", a.kind.toJson), ("tags", Json.ofList .str a.tags),
    ("trigger", Json.ofList .str a.trigger), ("recharge", a.recharge.toJson),
    ("uses", ofOption Pool.toJson a.uses), ("duration", ofOption Pool.toJson a.duration),
    ("active", .bool a.active), ("effect", ofOption AbilityEffect.toJson a.effect)]

/-- The form of an ability. -/
def Ability.toJson (a : Ability) : Json :=
  .obj (("id", a.id.toJson) :: a.members)

/-- Reads an ability; only identifier, name and kind have to be given. -/
def Ability.ofJson? (j : Json) : Option Ability := do
  let slot ← record? ["id", "name", "kind", "tags", "trigger", "recharge", "uses", "duration",
    "active", "effect"] j
  let id ← (slot "id").required Id.ofJson?
  let name ← (slot "name").required str?
  let kind ← (slot "kind").required AbilityKind.ofJson?
  let tags ← (slot "tags").withDefault [] (list? str?)
  let trigger ← (slot "trigger").withDefault [] (list? str?)
  let recharge ← (slot "recharge").withDefault .longRest Recharge.ofJson?
  let uses ← (slot "uses").withDefault none (nullable Pool.ofJson?)
  let duration ← (slot "duration").withDefault none (nullable Pool.ofJson?)
  let active ← (slot "active").withDefault false bool?
  let effect ← (slot "effect").withDefault none (nullable AbilityEffect.ofJson?)
  return ⟨id, name, kind, tags, trigger, recharge, uses, duration, active, effect⟩

/-- The form of an active effect. -/
def ActiveEffect.toJson (e : ActiveEffect) : Json :=
  .obj [("id", e.id.toJson), ("source_id", e.source.toJson), ("name", .str e.name),
    ("duration", e.duration.toJson), ("effect", ofOption AbilityEffect.toJson e.effect)]

/-- Reads an active effect. -/
def ActiveEffect.ofJson? (j : Json) : Option ActiveEffect := do
  let slot ← record? ["id", "source_id", "name", "duration", "effect"] j
  let id ← (slot "id").required Id.ofJson?
  let source ← (slot "source_id").required Id.ofJson?
  let name ← (slot "name").required str?
  let duration ← (slot "duration").required Pool.ofJson?
  let effect ← (slot "effect").optional AbilityEffect.ofJson?
  return ⟨id, source, name, duration, effect⟩

end Tabletop.Sheet
