import Tabletop.Grouping
import Tabletop.Rules.Placeholder

/-!
# Attack and damage modifiers

What is added to an attack roll, and the formulas that make up its damage: the character's modifiers
and proficiency together with the bonuses of the abilities that apply.  Nothing is rolled here.

## Attack

`attackModifiers` adds the modifier of the governing attribute, the proficiency bonus and the attack
bonuses; `AttackModifiers.formula` is the roll it describes.

## Damage

`damageModifiers` puts the item's damage first and then each damage bonus, once as a single formula
and once as a breakdown by source.  `groupByType` sorts a breakdown by damage type.
-/

namespace Tabletop.Rules

open Tabletop.Sheet Tabletop.Text

/-- The type of an item's damage when it names none. -/
def defaultDamageType : String :=
  "slashing"

/-- The type under which damage without a type is grouped. -/
def untypedDamage : String :=
  "physical"

/-! ## Attack -/

/-- An attack bonus and where it comes from. -/
structure BonusSource where
  /-- The name of the ability. -/
  source : String
  value : Int32
deriving DecidableEq, Repr

/-- What is added to the die of an attack. -/
structure AttackModifiers where
  /-- The attribute behind the attack. -/
  governing : Attribute
  attributeMod : Int32
  proficiency : Int32
  /-- The sum of the attack bonuses. -/
  effectsBonus : Int32
  /-- The attack bonuses one by one. -/
  effectsBreakdown : List BonusSource
  /-- Everything together. -/
  total : Int32
deriving DecidableEq, Repr

/-- The attack as a formula, such as `1d20+7`. -/
def AttackModifiers.formula (m : AttackModifiers) : String :=
  if m.total = 0 then "1d20" else "1d20" ++ withSign m.total.toInt

/-- The attack bonus of an ability, if it has one. -/
def bonusSource? (a : Ability) : Option BonusSource :=
  (a.effect.bind AbilityEffect.attackBonus).map fun value => ⟨a.name, value⟩

/-- The attack bonuses of a list of abilities. -/
def bonusSources (abilities : List Ability) : List BonusSource :=
  abilities.filterMap bonusSource?

/-- The sum of attack bonuses. -/
def bonusTotal (sources : List BonusSource) : Int32 :=
  sources.foldl (fun total source => total + source.value) 0

/-- What is added to an attack with an item when the given abilities apply. -/
def attackModifiers (item : Item) (c : Character) (selected : List Ability) : AttackModifiers :=
  let governing := governingAttribute item.attackRoll
  let attributeMod := Int32.ofInt (c.modifier governing)
  let proficiency := Int32.ofInt c.proficiency
  let sources := bonusSources selected
  { governing := governing
    attributeMod := attributeMod
    proficiency := proficiency
    effectsBonus := bonusTotal sources
    effectsBreakdown := sources
    total := attributeMod + proficiency + bonusTotal sources }

/-! ## Damage -/

/-- A part of the damage and where it comes from. -/
structure DamageSource where
  /-- The name of the item or ability. -/
  source : String
  formula : String
  /-- The type of the damage, if the source names one. -/
  damageType : Option String
deriving DecidableEq, Repr

/-- The damage bonuses of a list of abilities taken together. -/
structure DamageBonuses where
  /-- The dice, in order. -/
  dice : List String
  /-- The sum of the constants. -/
  flat : Int32
  /-- The bonuses one by one. -/
  breakdown : List DamageSource
deriving DecidableEq, Repr

namespace DamageBonuses

/-- No bonuses. -/
def empty : DamageBonuses :=
  ⟨[], 0, []⟩

/-- Whether the bonuses change nothing. -/
def isEmpty (b : DamageBonuses) : Bool :=
  b.dice.isEmpty && b.flat == 0

/-- The bonuses as a formula: the dice joined by pluses, then the constant unless it is zero. -/
def formula (b : DamageBonuses) : String :=
  let dice := join " + " b.dice
  if b.flat = 0 then dice
  else if dice.isEmpty then ofInt b.flat.toInt
  else if 0 < b.flat.toInt then dice ++ " + " ++ ofInt b.flat.toInt
  else dice ++ " - " ++ ofNat b.flat.toInt.natAbs

/-- The bonuses with that of one more ability. -/
def add (b : DamageBonuses) (a : Ability) : DamageBonuses :=
  match a.effect with
  | none => b
  | some effect =>
    match effect.damageBonus with
    | none => b
    | some (.dice formula) =>
      { b with
        dice := b.dice ++ [formula]
        breakdown := b.breakdown ++ [⟨a.name, formula, effect.damageType⟩] }
    | some (.flat value) =>
      { b with
        flat := b.flat + value
        breakdown := b.breakdown ++ [⟨a.name, ofInt value.toInt, effect.damageType⟩] }

/-- The damage bonuses of a list of abilities. -/
def ofAbilities (abilities : List Ability) : DamageBonuses :=
  abilities.foldl add empty

end DamageBonuses

/-- The damage of an attack before it is rolled. -/
structure DamageResolution where
  /-- The whole damage as one formula. -/
  formula : String
  /-- The type of the item's damage. -/
  baseType : String
  /-- The parts: the item first, then each bonus. -/
  breakdown : List DamageSource
  /-- The attribute behind the item's damage. -/
  governing : Attribute
  attributeMod : Int32
deriving DecidableEq, Repr

/-- A formula with the formula of the bonuses after it; a leading minus becomes the sign between
them. -/
def withBonuses (base bonuses : String) : String :=
  match bonuses.toList with
  | [] => base
  | '-' :: rest => base ++ " - " ++ String.ofList rest
  | _ => base ++ " + " ++ bonuses

/-- The damage of an attack with an item when the given abilities apply. -/
def damageModifiers (item : Item) (c : Character) (selected : List Ability) : DamageResolution :=
  let base := item.damageRoll.getD "0"
  let baseType := item.damageType.getD defaultDamageType
  let governing := governingAttribute (some base)
  let baseFormula := substitute base c
  let bonuses := DamageBonuses.ofAbilities selected
  { formula := withBonuses baseFormula bonuses.formula
    baseType := baseType
    breakdown := ⟨item.name, baseFormula, some baseType⟩ :: bonuses.breakdown
    governing := governing
    attributeMod := Int32.ofInt (c.modifier governing) }

/-- The type a part of the damage is grouped under. -/
def DamageSource.groupType (s : DamageSource) : String :=
  s.damageType.getD untypedDamage

/-- The parts of the damage by type, types in order of first appearance. -/
def groupByType (breakdown : List DamageSource) : List (String × List DamageSource) :=
  groupInOrder DamageSource.groupType breakdown

end Tabletop.Rules
