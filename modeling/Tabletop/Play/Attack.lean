import Tabletop.Play.Config
import Tabletop.Play.Lifecycle
import Tabletop.Rules.Applicable
import Tabletop.Rules.Modifiers

/-!
# Attacks

An attack is made with an item and any number of chosen instant abilities.  First everything that
can be refused is checked: the item, its action, each chosen ability in the order of choice, and its
uses.  Only then are dice rolled: the attack, and on a hit the damage, each source on its own.  A
natural 20 always hits and doubles the damage dice, a natural 1 never hits.

## Main definitions

* `prepareAttack` makes the checks and spends the chosen abilities.
* `rollDamage` rolls the damage of a hit.
* `resolveAttack` rolls a prepared attack and writes it to the log.
-/

namespace Tabletop.Play

open Tabletop.Dice Tabletop.Rules Tabletop.Sheet Tabletop.Text

/-- Why an attack cannot be made. -/
inductive AttackError
  /-- The character has no such item. -/
  | itemNotFound (id : ItemId)
  /-- The item cannot be used to attack. -/
  | noAttack (item : String)
  /-- A chosen ability is not available for the attack. -/
  | notApplicable (ability item : String)
  /-- The attack formula cannot be rolled. -/
  | dice (error : DiceError)
  /-- A chosen ability is missing or spent. -/
  | usage (error : UsageError)
deriving DecidableEq, Repr

/-- The message of an error. -/
def AttackError.message : AttackError → String
  | .itemNotFound id => "No item with id " ++ id.text
  | .noAttack item => item ++ " has no attack action"
  | .notApplicable ability item => ability ++ " does not apply to an attack with " ++ item
  | .dice error => "Dice error: " ++ error.message
  | .usage error => error.message

/-- An attack to make. -/
structure AttackRequest where
  /-- What to attack with. -/
  item : ItemId
  /-- Instant abilities to spend on the attack. -/
  chosen : List AbilityId
  /-- How to roll, if not as the session does. -/
  mode : Option RollMode
  /-- The armor class of the target, if not that of the session. -/
  targetAc : Option Int32
deriving DecidableEq, Repr

namespace AttackRequest

/-- An attack with an item and nothing else. -/
def ofItem (item : ItemId) : AttackRequest :=
  ⟨item, [], none, none⟩

/-- The attack with one more chosen ability, unless it is chosen already. -/
def withAbility (request : AttackRequest) (id : AbilityId) : AttackRequest :=
  if request.chosen.contains id then request else { request with chosen := request.chosen ++ [id] }

end AttackRequest

/-! ## Damage -/

/-- The rolled damage of a hit. -/
structure DamageOutcome where
  /-- The damage before it was rolled. -/
  resolution : DamageResolution
  /-- The formula that was rolled, dice doubled on a critical hit. -/
  formula : String
  /-- One roll for each part of the breakdown, in order. -/
  rolls : List RollResult
  /-- The damage dealt, never negative. -/
  total : Int32
  /-- The damage by type. -/
  byType : List DamageByType
deriving DecidableEq, Repr

/-- The formula that is rolled for a written one. -/
def damageFormula (critical : Bool) (formula : String) : Formula :=
  if critical then (Formula.parse formula).doubled else Formula.parse formula

/-- The rolls of the parts of a breakdown, and the source after them. -/
def rollSources {σ : Type} [DieSource σ] (critical : Bool) (sources : List DamageSource)
    (dice : σ) : List RollResult × σ :=
  match sources with
  | [] => ([], dice)
  | source :: sources =>
    let (roll, dice) := (damageFormula critical source.formula).roll dice
    let (rolls, dice) := rollSources critical sources dice
    (roll :: rolls, dice)

/-- The damage by type of parts and their rolls. -/
def amountsByType (breakdown : List DamageSource) (rolls : List RollResult) : List DamageByType :=
  (groupInOrder (fun part => part.1.groupType) (breakdown.zip rolls)).map fun group =>
    ⟨group.1, satSum (group.2.map fun part => part.2.total)⟩

/-- The rolled damage of a hit, and the source after it. -/
def rollDamage {σ : Type} [DieSource σ] (resolution : DamageResolution) (critical : Bool)
    (dice : σ) : DamageOutcome × σ :=
  let (rolls, dice) := rollSources critical resolution.breakdown dice
  ({ resolution := resolution
     formula :=
       if critical then (damageFormula true resolution.formula).text else resolution.formula
     rolls := rolls
     total := max (satSum (rolls.map RollResult.total)) 0
     byType := amountsByType resolution.breakdown rolls }, dice)

/-- The rolls of damage, each after the name of its source. -/
def DamageOutcome.breakdownText (d : DamageOutcome) : String :=
  join "; " ((d.resolution.breakdown.zip d.rolls).map fun (source, roll) =>
    source.source ++ ": " ++ roll.summary)

/-- The log's account of damage. -/
def DamageOutcome.record (d : DamageOutcome) (critical : Bool) : DamageRecord :=
  ⟨d.formula, d.total, d.breakdownText, critical, d.byType⟩

/-! ## Preparing -/

/-- An attack that can be made. -/
structure PreparedAttack where
  /-- What is attacked with. -/
  item : Item
  /-- The abilities that apply, the chosen ones last. -/
  selected : List Ability
  /-- The character with the chosen abilities spent. -/
  spent : Character
deriving DecidableEq, Repr

/-- The item with an identifier, provided that it can attack. -/
def attackItem (c : Character) (id : ItemId) : Except AttackError Item :=
  match c.item? id with
  | none => .error (.itemNotFound id)
  | some item => if item.canAttack then .ok item else .error (.noAttack item.name)

/-- The chosen abilities, in order, provided that each is available. -/
def selectChosen (c : Character) (item : Item) (available : List Ability) :
    List AbilityId → Except AttackError (List Ability)
  | [] => .ok []
  | id :: ids =>
    match available.find? fun a => a.id == id with
    | some a =>
      match selectChosen c item available ids with
      | .ok rest => .ok (a :: rest)
      | .error e => .error e
    | none =>
      match c.ability? id with
      | some a => .error (.notApplicable a.name item.name)
      | none => .error (.usage (.abilityNotFound id))

/-- The character after spending the chosen abilities one by one, the n-th logged under the n-th
stamp. -/
def spendChosen (c : Character) (stamps : Nat → Stamp) :
    List AbilityId → Except UsageError Character
  | [] => .ok c
  | id :: ids =>
    match useAbility c id (stamps 0) with
    | .ok t => spendChosen t.character (fun n => stamps (n + 1)) ids
    | .error e => .error e

/-- The attack a request asks for, if it can be made. -/
def prepareAttack (c : Character) (request : AttackRequest) (stamps : Nat → Stamp) :
    Except AttackError PreparedAttack :=
  match attackItem c request.item with
  | .error e => .error e
  | .ok item =>
    let applicable := applicableEffects item.actionTags c.abilities
    match selectChosen c item applicable.available request.chosen with
    | .error e => .error e
    | .ok chosen =>
      match spendChosen c stamps request.chosen with
      | .error e => .error (.usage e)
      | .ok spent => .ok ⟨item, applicable.automatic ++ chosen, spent⟩

/-! ## Rolling -/

/-- What happened in an attack. -/
structure AttackOutcome where
  roll : D20Roll
  modifiers : AttackModifiers
  /-- The armor class it was rolled against. -/
  targetAc : Int32
  hit : Bool
  critical : Bool
  /-- The names of the abilities that applied. -/
  effectsApplied : List String
  /-- The damage, if it hit. -/
  damage : Option DamageOutcome
  /-- The log entry about it. -/
  entry : LogEntry
deriving DecidableEq, Repr

/-- Whether an attack roll hits a target: a one never does, a twenty always, any other roll when it
reaches the armor class. -/
def hits (roll : D20Roll) (targetAc : Int32) : Bool :=
  !roll.isFumble && (roll.isCritical || targetAc ≤ roll.total)

/-- The damage of an attack if it hits, and the source after it. -/
def damageIfHit {σ : Type} [DieSource σ] (c : Character) (attack : PreparedAttack) (roll : D20Roll)
    (targetAc : Int32) (dice : σ) : Option DamageOutcome × σ :=
  if hits roll targetAc then
    let (damage, dice) :=
      rollDamage (damageModifiers attack.item c attack.selected) roll.isCritical dice
    (some damage, dice)
  else (none, dice)

/-- The log's account of an attack. -/
def attackRecord (attack : PreparedAttack) (roll : D20Roll) (targetAc : Int32)
    (damage : Option DamageOutcome) : AttackRecord :=
  { weapon := attack.item.name
    mode := roll.mode
    d20 := roll.chosen
    modifier := roll.modifier
    total := roll.total
    targetAc := targetAc
    hit := hits roll targetAc
    critical := roll.isCritical
    effectsApplied := attack.selected.map Ability.name
    damage := damage.map fun d => d.record roll.isCritical }

/-- Rolls an attack that `c` can make: what happened, the character after it, and the source after
its dice.  The modifiers are those of the character before the chosen abilities were spent. -/
def resolveAttack {σ : Type} [DieSource σ] (c : Character) (attack : PreparedAttack)
    (mode : RollMode) (targetAc : Int32) (stamp : Stamp) (dice : σ) :
    Except AttackError (AttackOutcome × Character) × σ :=
  let modifiers := attackModifiers attack.item c attack.selected
  match rollD20 modifiers.formula mode dice with
  | (.error e, dice) => (.error (.dice e), dice)
  | (.ok roll, dice) =>
    let (damage, dice) := damageIfHit c attack roll targetAc dice
    let account := attackRecord attack roll targetAc damage
    let logged := record attack.spent stamp (.attack account)
    (.ok ({ roll := roll
            modifiers := modifiers
            targetAc := targetAc
            hit := account.hit
            critical := account.critical
            effectsApplied := account.effectsApplied
            damage := damage
            entry := logged.entry }, logged.character), dice)

end Tabletop.Play
