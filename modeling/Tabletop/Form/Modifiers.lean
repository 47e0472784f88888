import Tabletop.Form.Character
import Tabletop.Rules.Modifiers

/-!
# Forms of modifiers

How attack modifiers and damage before it is rolled stand in JSON documents.
-/

namespace Tabletop.Rules

open Tabletop.Json (record? int32? str? list? ofInt32 ofOption)
open Tabletop.Sheet (Attribute)

/-- The form of an attack bonus. -/
def BonusSource.toJson (b : BonusSource) : Json :=
  .obj [("source", .str b.source), ("value", ofInt32 b.value)]

/-- Reads an attack bonus. -/
def BonusSource.ofJson? (j : Json) : Option BonusSource := do
  let slot ← record? ["source", "value"] j
  let source ← (slot "source").required str?
  let value ← (slot "value").required int32?
  return ⟨source, value⟩

/-- The form of attack modifiers. -/
def AttackModifiers.toJson (m : AttackModifiers) : Json :=
  .obj [("attribute", m.governing.toJson), ("attribute_mod", ofInt32 m.attributeMod),
    ("proficiency", ofInt32 m.proficiency), ("effects_bonus", ofInt32 m.effectsBonus),
    ("effects_breakdown", Json.ofList BonusSource.toJson m.effectsBreakdown),
    ("total", ofInt32 m.total)]

/-- Reads attack modifiers. -/
def AttackModifiers.ofJson? (j : Json) : Option AttackModifiers := do
  let slot ← record? ["attribute", "attribute_mod", "proficiency", "effects_bonus",
    "effects_breakdown", "total"] j
  let governing ← (slot "attribute").required Attribute.ofJson?
  let attributeMod ← (slot "attribute_mod").required int32?
  let proficiency ← (slot "proficiency").required int32?
  let effectsBonus ← (slot "effects_bonus").required int32?
  let effectsBreakdown ← (slot "effects_breakdown").required (list? BonusSource.ofJson?)
  let total ← (slot "total").required int32?
  return ⟨governing, attributeMod, proficiency, effectsBonus, effectsBreakdown, total⟩

/-- The form of a part of the damage. -/
def DamageSource.toJson (s : DamageSource) : Json :=
  .obj [("source", .str s.source), ("formula", .str s.formula),
    ("damage_type", ofOption .str s.damageType)]

/-- Reads a part of the damage. -/
def DamageSource.ofJson? (j : Json) : Option DamageSource := do
  let slot ← record? ["source", "formula", "damage_type"] j
  let source ← (slot "source").required str?
  let formula ← (slot "formula").required str?
  let damageType ← (slot "damage_type").optional str?
  return ⟨source, formula, damageType⟩

/-- The form of damage before it is rolled. -/
def DamageResolution.toJson (d : DamageResolution) : Json :=
  .obj [("formula", .str d.formula), ("base_type", .str d.baseType),
    ("breakdown", Json.ofList DamageSource.toJson d.breakdown),
    ("attribute", d.governing.toJson), ("attribute_mod", ofInt32 d.attributeMod)]

/-- Reads damage before it is rolled. -/
def DamageResolution.ofJson? (j : Json) : Option DamageResolution := do
  let slot ← record? ["formula", "base_type", "breakdown", "attribute", "attribute_mod"] j
  let formula ← (slot "formula").required str?
  let baseType ← (slot "base_type").required str?
  let breakdown ← (slot "breakdown").required (list? DamageSource.ofJson?)
  let governing ← (slot "attribute").required Attribute.ofJson?
  let attributeMod ← (slot "attribute_mod").required int32?
  return ⟨formula, baseType, breakdown, governing, attributeMod⟩

/-- The form of damage bonuses. -/
def DamageBonuses.toJson (b : DamageBonuses) : Json :=
  .obj [("dice", Json.ofList .str b.dice), ("flat", ofInt32 b.flat),
    ("breakdown", Json.ofList DamageSource.toJson b.breakdown)]

/-- Reads damage bonuses. -/
def DamageBonuses.ofJson? (j : Json) : Option DamageBonuses := do
  let slot ← record? ["dice", "flat", "breakdown"] j
  let dice ← (slot "dice").required (list? str?)
  let flat ← (slot "flat").required int32?
  let breakdown ← (slot "breakdown").required (list? DamageSource.ofJson?)
  return ⟨dice, flat, breakdown⟩

end Tabletop.Rules
