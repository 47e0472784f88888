import Tabletop.Form.Ability
import Tabletop.Form.CombatLog
import Tabletop.Form.Item
import Tabletop.Sheet.Character

/-!
# Forms of characters

How a whole sheet stands in a saved document.  Scores and level are read as they are, without being
brought into range.
-/

namespace Tabletop.Sheet

open Tabletop.Json (record? uint8? uint32? int32? str? bool? list? enum? ofUInt8 ofUInt32 ofInt32)

/-! ## Attributes and hit points -/

/-- The form of an attribute. -/
def Attribute.toJson (a : Attribute) : Json :=
  .str a.name

/-- Reads an attribute. -/
def Attribute.ofJson? : Json → Option Attribute :=
  enum? Attribute.all Attribute.name

/-- The form of the six scores. -/
def Attributes.toJson (s : Attributes) : Json :=
  .obj [("strength", ofUInt8 s.strength), ("dexterity", ofUInt8 s.dexterity),
    ("constitution", ofUInt8 s.constitution), ("intelligence", ofUInt8 s.intelligence),
    ("wisdom", ofUInt8 s.wisdom), ("charisma", ofUInt8 s.charisma)]

/-- Reads the six scores. -/
def Attributes.ofJson? (j : Json) : Option Attributes := do
  let slot ← record? ["strength", "dexterity", "constitution", "intelligence", "wisdom",
    "charisma"] j
  let strength ← (slot "strength").required uint8?
  let dexterity ← (slot "dexterity").required uint8?
  let constitution ← (slot "constitution").required uint8?
  let intelligence ← (slot "intelligence").required uint8?
  let wisdom ← (slot "wisdom").required uint8?
  let charisma ← (slot "charisma").required uint8?
  return ⟨strength, dexterity, constitution, intelligence, wisdom, charisma⟩

/-- The form of hit points. -/
def HitPoints.toJson (hp : HitPoints) : Json :=
  .obj [("current", ofInt32 hp.current), ("maximum", ofInt32 hp.maximum),
    ("temporary", ofInt32 hp.temporary)]

/-- Reads hit points. -/
def HitPoints.ofJson? (j : Json) : Option HitPoints := do
  let slot ← record? ["current", "maximum", "temporary"] j
  let current ← (slot "current").required int32?
  let maximum ← (slot "maximum").required int32?
  let temporary ← (slot "temporary").required int32?
  return ⟨current, maximum, temporary⟩

/-! ## Classes and templates -/

/-- The form of a class. -/
def CharacterClass.toJson (c : CharacterClass) : Json :=
  .str c.name

/-- Reads a class. -/
def CharacterClass.ofJson? : Json → Option CharacterClass :=
  enum? CharacterClass.all CharacterClass.name

/-- The name of a sheet layout. -/
def SheetTemplate.key : SheetTemplate → String
  | .martial => "martial"
  | .caster => "caster"
  | .hybrid => "hybrid"
  | .custom => "custom"

/-- The form of a sheet layout. -/
def SheetTemplate.toJson (t : SheetTemplate) : Json :=
  .str t.key

/-- Reads a sheet layout. -/
def SheetTemplate.ofJson? : Json → Option SheetTemplate :=
  enum? [.martial, .caster, .hybrid, .custom] SheetTemplate.key

/-! ## Preferences -/

/-- The name of a source of die results. -/
def DiceEntry.key : DiceEntry → String
  | .virtual => "virtual"
  | .manual => "manual"

/-- The form of a source of die results. -/
def DiceEntry.toJson (d : DiceEntry) : Json :=
  .str d.key

/-- Reads a source of die results. -/
def DiceEntry.ofJson? : Json → Option DiceEntry :=
  enum? [.virtual, .manual] DiceEntry.key

/-- The ways to treat the log in order. -/
def LogRetention.all : List LogRetention :=
  [.keep, .clearOnRest]

/-- The name of a way to treat the log. -/
def LogRetention.key : LogRetention → String
  | .keep => "keep"
  | .clearOnRest => "clear-on-rest"

/-- The form of a way to treat the log. -/
def LogRetention.toJson (r : LogRetention) : Json :=
  .str r.key

/-- Reads a way to treat the log. -/
def LogRetention.ofJson? : Json → Option LogRetention :=
  enum? LogRetention.all LogRetention.key

/-- The form of preferences. -/
def Preferences.toJson (p : Preferences) : Json :=
  .obj [("dice_entry", p.diceEntry.toJson),
    ("auto_advance_to_damage", .bool p.autoAdvanceToDamage),
    ("confirm_hit", .bool p.confirmHit), ("log_retention", p.logRetention.toJson)]

/-- Reads preferences; a field that is left out is that of a new character. -/
def Preferences.ofJson? (j : Json) : Option Preferences := do
  let slot ← record? ["dice_entry", "auto_advance_to_damage", "confirm_hit", "log_retention"] j
  let diceEntry ← (slot "dice_entry").withDefault .virtual DiceEntry.ofJson?
  let autoAdvance ← (slot "auto_advance_to_damage").withDefault true bool?
  let confirmHit ← (slot "confirm_hit").withDefault true bool?
  let logRetention ← (slot "log_retention").withDefault .keep LogRetention.ofJson?
  return ⟨diceEntry, autoAdvance, confirmHit, logRetention⟩

/-! ## Characters -/

/-- The form of a character. -/
def Character.toJson (c : Character) : Json :=
  .obj [("id", c.id.toJson), ("name", .str c.name), ("class", c.characterClass.toJson),
    ("template", c.template.toJson), ("level", ofUInt8 c.level),
    ("attributes", c.attributes.toJson), ("hit_points", c.hitPoints.toJson),
    ("items", Json.ofList Item.toJson c.items),
    ("abilities", Json.ofList Ability.toJson c.abilities),
    ("active_effects", Json.ofList ActiveEffect.toJson c.activeEffects),
    ("combat_log", c.combatLog.toJson), ("turn", ofUInt32 c.turn),
    ("preferences", c.preferences.toJson)]

/-- Reads a character. -/
def Character.ofJson? (j : Json) : Option Character := do
  let slot ← record? ["id", "name", "class", "template", "level", "attributes", "hit_points",
    "items", "abilities", "active_effects", "combat_log", "turn", "preferences"] j
  let id ← (slot "id").required Id.ofJson?
  let name ← (slot "name").required str?
  let characterClass ← (slot "class").required CharacterClass.ofJson?
  let template ← (slot "template").required SheetTemplate.ofJson?
  let level ← (slot "level").required uint8?
  let attributes ← (slot "attributes").required Attributes.ofJson?
  let hitPoints ← (slot "hit_points").required HitPoints.ofJson?
  let items ← (slot "items").required (list? Item.ofJson?)
  let abilities ← (slot "abilities").required (list? Ability.ofJson?)
  let activeEffects ← (slot "active_effects").required (list? ActiveEffect.ofJson?)
  let combatLog ← (slot "combat_log").required CombatLog.ofJson?
  let turn ← (slot "turn").required uint32?
  let preferences ← (slot "preferences").required Preferences.ofJson?
  return ⟨id, name, characterClass, template, level, attributes, hitPoints, items, abilities,
    activeEffects, combatLog, turn, preferences⟩

end Tabletop.Sheet
