import Tabletop.Sheet.Ability
import Tabletop.Sheet.Attribute
import Tabletop.Sheet.Class
import Tabletop.Sheet.CombatLog
import Tabletop.Sheet.HitPoints
import Tabletop.Sheet.Item
import Tabletop.Sheet.Preferences

/-!
# Characters

A character is the whole sheet: scores, level, hit points, items, the roster of abilities, the
effects that are active, the combat log and the turn counter.  Look-ups by identifier find the first
match.

`Character.effectsConsistent` says that abilities and active effects tell the same story: every
active lasting ability has exactly one effect with the same countdown, and every effect comes from
an active ability.
-/

namespace Tabletop.Sheet

/-- A character sheet. -/
structure Character where
  id : CharacterId
  name : String
  characterClass : CharacterClass
  template : SheetTemplate
  level : UInt8
  attributes : Attributes
  hitPoints : HitPoints
  items : List Item
  abilities : List Ability
  activeEffects : List ActiveEffect
  combatLog : CombatLog
  /-- Turns since the last rest. -/
  turn : UInt32
  preferences : Preferences
deriving DecidableEq, Repr

/-- The list with its first element that satisfies a condition changed. -/
def updateFirst {α : Type} (p : α → Bool) (f : α → α) : List α → List α
  | [] => []
  | a :: as => if p a then f a :: as else a :: updateFirst p f as

namespace Character

/-- A new character of the first level, without items and abilities. -/
def new (id : CharacterId) (name : String) (characterClass : CharacterClass) : Character :=
  { id := id
    name := name
    characterClass := characterClass
    template := characterClass.suggestedTemplate
    level := 1
    attributes := .default
    hitPoints := .default
    items := []
    abilities := []
    activeEffects := []
    combatLog := .empty
    turn := 0
    preferences := .default }

/-! ## Scores and level -/

/-- The character at another level, brought between 1 and 20. -/
def setLevel (c : Character) (level : UInt8) : Character :=
  { c with level := if level < 1 then 1 else if 20 < level then 20 else level }

/-- The character with one score replaced. -/
def setAttribute (c : Character) (a : Attribute) (score : UInt8) : Character :=
  { c with attributes := c.attributes.set a score }

/-- The proficiency bonus. -/
def proficiency (c : Character) : Int :=
  proficiencyOfLevel c.level

/-- The modifier of an attribute. -/
def modifier (c : Character) (a : Attribute) : Int :=
  c.attributes.modifier a

/-! ## Abilities and effects -/

/-- The ability with an identifier. -/
def ability? (c : Character) (id : AbilityId) : Option Ability :=
  c.abilities.find? fun a => a.id == id

/-- The ability with a name, whatever the case of its ASCII letters. -/
def abilityByName? (c : Character) (name : String) : Option Ability :=
  c.abilities.find? fun a => a.name.toList.map Char.toLower == name.toList.map Char.toLower

/-- The character with the ability of an identifier changed. -/
def updateAbility (c : Character) (id : AbilityId) (f : Ability → Ability) : Character :=
  { c with abilities := updateFirst (fun a => a.id == id) f c.abilities }

/-- The first active effect of an ability. -/
def effectFor? (c : Character) (source : AbilityId) : Option ActiveEffect :=
  c.activeEffects.find? fun e => e.source == source

/-- The character without the active effects of an ability. -/
def dropEffects (c : Character) (source : AbilityId) : Character :=
  { c with activeEffects := c.activeEffects.filter fun e => e.source != source }

/-- Whether an ability has exactly one active effect, with the same turns left. -/
def hasMatchingEffect (c : Character) (a : Ability) : Bool :=
  match c.activeEffects.filter fun e => e.source == a.id with
  | [e] => e.duration.current == a.turnsRemaining
  | _ => false

/-- Whether an effect comes from an active ability. -/
def hasActiveSource (c : Character) (e : ActiveEffect) : Bool :=
  match c.ability? e.source with
  | some a => a.active
  | none => false

/-- Whether abilities and active effects agree. -/
def effectsConsistent (c : Character) : Bool :=
  (c.abilities.filter Ability.isRunning).all c.hasMatchingEffect &&
    c.activeEffects.all c.hasActiveSource

/-- Whether the ability with a name has the given number of uses left. -/
def hasUses (c : Character) (name : String) (uses : UInt32) : Bool :=
  (c.abilityByName? name).bind Ability.usesRemaining == some uses

/-- Whether the ability with a name is active, or inactive, as given. -/
def hasActivity (c : Character) (name : String) (active : Bool) : Bool :=
  (c.abilityByName? name).map Ability.active == some active

/-! ## Items -/

/-- The item with an identifier. -/
def item? (c : Character) (id : ItemId) : Option Item :=
  c.items.find? fun i => i.id == id

/-- The character with one more item. -/
def addItem (c : Character) (item : Item) : Character :=
  { c with items := c.items ++ [item] }

/-- The character without the first item of an identifier. -/
def removeItem (c : Character) (id : ItemId) : Character :=
  { c with items := c.items.eraseP fun i => i.id == id }

end Character

end Tabletop.Sheet
