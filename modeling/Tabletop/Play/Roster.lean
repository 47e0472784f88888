import Tabletop.Play.Lifecycle

/-!
# Starting rosters

The abilities a new character of each class starts with.  They get their identifiers when they are
granted, so a roster lists them as functions of an identifier.
-/

namespace Tabletop.Play

open Tabletop.Sheet

/-- An ability that has no identifier yet. -/
abbrev NewAbility := AbilityId → Ability

/-- An effect that is only described. -/
def described (description : String) : AbilityEffect :=
  { AbilityEffect.empty with description := some description }

/-- An effect that adds damage. -/
def damaging (bonus : DamageBonus) : AbilityEffect :=
  { AbilityEffect.empty with damageBonus := some bonus }

/-- An effect that adds damage of a type. -/
def damagingAs (bonus : DamageBonus) (damageType : String) : AbilityEffect :=
  { damaging bonus with damageType := some damageType }

/-- A barbarian's fury. -/
def rage : NewAbility := fun id =>
  { Ability.lasting id "Rage" 2 10 with
    tags := ["barbarian", "bonus-action"]
    trigger := ["attack.melee", "melee"]
    effect := some
      { description := some "Bonus rage damage and resistance to physical damage."
        damageBonus := some (.flat 2)
        damageType := none
        attackBonus := none
        resistances := ["bludgeoning", "piercing", "slashing"] } }

/-- A barbarian's armor class without armor. -/
def unarmoredDefense : NewAbility := fun id =>
  { Ability.passive id "Unarmored Defense" with
    tags := ["barbarian", "defense"]
    effect := some (described "AC equals 10 + DEX modifier + CON modifier without armor.") }

/-- A bard's inspiration die. -/
def bardicInspiration : NewAbility := fun id =>
  { Ability.instant id "Bardic Inspiration" 3 with
    tags := ["bard", "bonus-action"]
    effect := some (described "Give a creature a d6 inspiration die.") }

/-- A cleric's divine power. -/
def channelDivinity : NewAbility := fun id =>
  { Ability.instant id "Channel Divinity" 1 with
    tags := ["cleric"]
    recharge := .shortRest
    effect := some (described "Turn Undead or a domain option.") }

/-- A druid's change of shape. -/
def wildShape : NewAbility := fun id =>
  { Ability.lasting id "Wild Shape" 2 10 with
    tags := ["druid", "transformation"]
    recharge := .shortRest }

/-- A fighter's recovery. -/
def secondWind : NewAbility := fun id =>
  { Ability.instant id "Second Wind" 1 with
    tags := ["fighter", "bonus-action", "healing"]
    recharge := .shortRest
    effect := some (described "Regain 1d10 + fighter level hit points.") }

/-- A fighter's additional action. -/
def actionSurge : NewAbility := fun id =>
  { Ability.instant id "Action Surge" 1 with
    tags := ["fighter"]
    recharge := .shortRest
    effect := some (described "Take one additional action.") }

/-- A fighter's way with one weapon. -/
def dueling : NewAbility := fun id =>
  { Ability.passive id "Fighting Style: Dueling" with
    tags := ["fighter", "fighting-style"]
    trigger := ["weapon.melee.one-handed"]
    effect := some (damaging (.flat 2)) }

/-- A monk's inner energy. -/
def ki : NewAbility := fun id =>
  { Ability.instant id "Ki" 2 with
    tags := ["monk", "resource"]
    recharge := .shortRest }

/-- A monk's way of fighting. -/
def martialArts : NewAbility := fun id =>
  { Ability.passive id "Martial Arts" with
    tags := ["monk"]
    trigger := ["unarmed", "monk-weapon"]
    effect := some (damaging (.dice "1d4")) }

/-- A paladin's radiant strike. -/
def divineSmite : NewAbility := fun id =>
  { Ability.instant id "Divine Smite" 2 with
    tags := ["paladin", "spell-slot"]
    trigger := ["attack.melee", "melee"]
    effect := some (damagingAs (.dice "2d8") "radiant") }

/-- A paladin's healing touch. -/
def layOnHands : NewAbility := fun id =>
  { Ability.instant id "Lay on Hands" 5 with
    tags := ["paladin", "healing"]
    effect := some (described "Restore hit points from a pool of 5.") }

/-- A ranger's marked prey. -/
def huntersMark : NewAbility := fun id =>
  { Ability.lasting id "Hunter's Mark" 2 10 with
    tags := ["ranger", "spell", "concentration"]
    trigger := ["attack", "weapon"]
    effect := some (damagingAs (.dice "1d6") "force") }

/-- A rogue's strike from cover. -/
def sneakAttack : NewAbility := fun id =>
  { Ability.passive id "Sneak Attack" with
    tags := ["rogue"]
    trigger := ["finesse", "ranged"]
    effect := some (damaging (.dice "1d6")) }

/-- A sorcerer's well of magic. -/
def fontOfMagic : NewAbility := fun id =>
  { Ability.instant id "Font of Magic" 2 with
    tags := ["sorcerer", "resource"] }

/-- A warlock's stronger blast. -/
def agonizingBlast : NewAbility := fun id =>
  { Ability.passive id "Agonizing Blast" with
    tags := ["warlock", "invocation"]
    trigger := ["eldritch-blast"]
    effect := some (damaging (.flat 3)) }

/-- A wizard's recovery of spells. -/
def arcaneRecovery : NewAbility := fun id =>
  { Ability.instant id "Arcane Recovery" 1 with
    tags := ["wizard", "spell-slot"]
    effect := some (described "Recover expended spell slots on a short rest.") }

/-- The abilities a class starts with. -/
def startingAbilities : CharacterClass → List NewAbility
  | .barbarian => [rage, unarmoredDefense]
  | .bard => [bardicInspiration]
  | .cleric => [channelDivinity]
  | .druid => [wildShape]
  | .fighter => [secondWind, actionSurge, dueling]
  | .monk => [ki, martialArts]
  | .paladin => [divineSmite, layOnHands]
  | .ranger => [huntersMark]
  | .rogue => [sneakAttack]
  | .sorcerer => [fontOfMagic]
  | .warlock => [agonizingBlast]
  | .wizard => [arcaneRecovery]

/-- The character with more abilities, the n-th under the n-th of the given identifiers. -/
def grantAll (c : Character) (ids : Nat → AbilityId) : List NewAbility → Character
  | [] => c
  | a :: rest => grantAll (addAbility c (ids 0) (a (ids 0))) (fun n => ids (n + 1)) rest

/-- A new character with the abilities of the class. -/
def newCharacter (id : CharacterId) (name : String) (characterClass : CharacterClass)
    (ids : Nat → AbilityId) : Character :=
  grantAll (Character.new id name characterClass) ids (startingAbilities characterClass)

/-! ## Samples -/

/-- A one-handed sword that uses strength for attack and damage. -/
def longsword (id : ItemId) : Item :=
  let sword := Item.weapon id "Longsword" "1d20+@STR" "1d8+@STR" "slashing"
  { sword with
    tags := sword.tags ++ ["sword", "melee", "weapon.melee.one-handed"]
    equipped := true }

/-- A passive ability that adds a die to the damage of swords. -/
def swordMastery : NewAbility := fun id =>
  { Ability.passive id "Sword Mastery" with
    trigger := ["sword"]
    recharge := .manual
    effect := some (damaging (.dice "1d4")) }

/-- A fighter of the first level with a longsword and mastery of it. -/
def sampleFighter (id : CharacterId) (name : String) (ids : Nat → AbilityId) (sword : ItemId) :
    Character :=
  let base := newCharacter id name .fighter ids
  let equipped :=
    { base with
      attributes := Attributes.ofScores 16 14 14 10 12 8
      hitPoints := HitPoints.full 12 }.addItem (longsword sword)
  grantAll equipped (fun n => ids (n + (startingAbilities .fighter).length)) [swordMastery]

/-- A barbarian of the first level with a longsword. -/
def sampleBarbarian (id : CharacterId) (name : String) (ids : Nat → AbilityId) (sword : ItemId) :
    Character :=
  let base := newCharacter id name .barbarian ids
  { base with
    attributes := Attributes.ofScores 17 13 16 8 12 10
    hitPoints := HitPoints.full 15 }.addItem (longsword sword)

end Tabletop.Play
