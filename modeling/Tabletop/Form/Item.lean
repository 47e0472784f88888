import Tabletop.Form.Basic
import Tabletop.Sheet.Item

/-!
# Forms of items

How items and their actions stand in a saved sheet.
-/

namespace Tabletop.Sheet

open Tabletop.Json (record? str? bool? list? enum? nullable ofOption)

/-- The kinds of items in order. -/
def ItemKind.all : List ItemKind :=
  [.weapon, .armor, .consumable, .tool, .misc]

/-- The name of a kind of items. -/
def ItemKind.key : ItemKind → String
  | .weapon => "weapon"
  | .armor => "armor"
  | .consumable => "consumable"
  | .tool => "tool"
  | .misc => "misc"

/-- The form of a kind of items. -/
def ItemKind.toJson (k : ItemKind) : Json :=
  .str k.key

/-- Reads a kind of items. -/
def ItemKind.ofJson? : Json → Option ItemKind :=
  enum? ItemKind.all ItemKind.key

/-- The form of a kind of actions: its tag. -/
def ActionKind.toJson (k : ActionKind) : Json :=
  .str k.tag

/-- Reads a kind of actions. -/
def ActionKind.ofJson? : Json → Option ActionKind :=
  enum? [.attack, .spell, .utility] ActionKind.tag

/-- The form of an action. -/
def ItemAction.toJson (a : ItemAction) : Json :=
  .obj [("kind", a.kind.toJson), ("attack_roll", ofOption .str a.attackRoll),
    ("damage_roll", ofOption .str a.damageRoll), ("damage_type", ofOption .str a.damageType)]

/-- Reads an action; only its kind has to be given. -/
def ItemAction.ofJson? (j : Json) : Option ItemAction := do
  let slot ← record? ["kind", "attack_roll", "damage_roll", "damage_type"] j
  let kind ← (slot "kind").required ActionKind.ofJson?
  let attackRoll ← (slot "attack_roll").withDefault none (nullable str?)
  let damageRoll ← (slot "damage_roll").withDefault none (nullable str?)
  let damageType ← (slot "damage_type").withDefault none (nullable str?)
  return ⟨kind, attackRoll, damageRoll, damageType⟩

/-- The members of an item after its identifier. -/
def Item.members (i : Item) : List (String × Json) :=
  [("name", .str i.name), ("kind", i.kind.toJson), ("tags", Json.ofList .str i.tags),
    ("action", ofOption ItemAction.toJson i.action), ("equipped", .bool i.equipped)]

/-- The form of an item. -/
def Item.toJson (i : Item) : Json :=
  .obj (("id", i.id.toJson) :: i.members)

/-- Reads an item; only identifier, name and kind have to be given. -/
def Item.ofJson? (j : Json) : Option Item := do
  let slot ← record? ["id", "name", "kind", "tags", "action", "equipped"] j
  let id ← (slot "id").required Id.ofJson?
  let name ← (slot "name").required str?
  let kind ← (slot "kind").required ItemKind.ofJson?
  let tags ← (slot "tags").withDefault [] (list? str?)
  let action ← (slot "action").withDefault none (nullable ItemAction.ofJson?)
  let equipped ← (slot "equipped").withDefault false bool?
  return ⟨id, name, kind, tags, action, equipped⟩

end Tabletop.Sheet
