import Tabletop.Identifier
import Tabletop.Sheet.Pool
import Tabletop.Text.Decimal

/-!
# Abilities

An ability is passive, instant or lasting.  Passive abilities are always on.  Instant abilities
spend a use when they are used.  Lasting abilities, of kind `duration`, spend a use when they are
activated and stay active for a number of turns; while one is active, an `ActiveEffect` carries a
copy of its effect and its countdown.

`Ability.checkUsable` is the condition under which an ability can be used or activated;
`UsageError` lists the reasons against it.
-/

namespace Tabletop.Sheet

open Tabletop.Text

/-- The kinds of abilities. -/
inductive AbilityKind
  | passive | instant | duration
deriving DecidableEq, Repr, Inhabited

/-- The name of a kind. -/
def AbilityKind.name : AbilityKind → String
  | .passive => "passive"
  | .instant => "instant"
  | .duration => "duration"

/-- What gives the uses of an ability back. -/
inductive Recharge
  | shortRest | longRest | dawn | manual
deriving DecidableEq, Repr, Inhabited

/-- Damage that an effect adds. -/
inductive DamageBonus
  /-- Dice, given as a formula. -/
  | dice (formula : String)
  /-- A constant. -/
  | flat (value : Int32)
deriving DecidableEq, Repr

/-- The shown form of a damage bonus. -/
def DamageBonus.text : DamageBonus → String
  | .dice formula => formula
  | .flat value => withSign value.toInt

/-- What an ability does once it applies. -/
structure AbilityEffect where
  description : Option String
  /-- Damage it adds. -/
  damageBonus : Option DamageBonus
  /-- The type of that damage. -/
  damageType : Option String
  /-- What it adds to attack rolls. -/
  attackBonus : Option Int32
  /-- Damage types it protects from. -/
  resistances : List String
deriving DecidableEq, Repr

/-- An effect that does nothing. -/
def AbilityEffect.empty : AbilityEffect :=
  ⟨none, none, none, none, []⟩

/-- An ability on a roster. -/
structure Ability where
  id : AbilityId
  name : String
  kind : AbilityKind
  /-- Tags of the ability itself. -/
  tags : List String
  /-- Tags of the actions it applies to. -/
  trigger : List String
  /-- What gives its uses back. -/
  recharge : Recharge
  /-- Uses left, if they are limited. -/
  uses : Option Pool
  /-- Turns left while active; only lasting abilities count them. -/
  duration : Option Pool
  /-- Whether it is active; only lasting abilities can be. -/
  active : Bool
  effect : Option AbilityEffect
deriving DecidableEq, Repr

/-- The live copy of an active ability's effect. -/
structure ActiveEffect where
  id : EffectId
  /-- The ability it comes from. -/
  source : AbilityId
  name : String
  /-- Turns left. -/
  duration : Pool
  effect : Option AbilityEffect
deriving DecidableEq, Repr

/-- Why an ability cannot be used, activated or deactivated. -/
inductive UsageError
  /-- The roster has no such ability. -/
  | abilityNotFound (id : AbilityId)
  /-- The ability is of another kind than the action asks for. -/
  | wrongKind (name : String) (expected actual : AbilityKind)
  /-- All uses are spent. -/
  | noUsesLeft (name : String)
  /-- It is active already. -/
  | alreadyActive (name : String)
  /-- It is not active. -/
  | notActive (name : String)
deriving DecidableEq, Repr

/-- The message of an error. -/
def UsageError.message : UsageError → String
  | .abilityNotFound id => "No ability with id " ++ id.text
  | .wrongKind name expected actual =>
    name ++ " is a " ++ actual.name ++ " ability, expected " ++ expected.name
  | .noUsesLeft name => name ++ " has no uses left"
  | .alreadyActive name => name ++ " is already active"
  | .notActive name => name ++ " is not active"

namespace Ability

/-! ## Making abilities -/

/-- An ability without tags, uses, duration or effect, back after a long rest. -/
def plain (id : AbilityId) (name : String) (kind : AbilityKind) : Ability :=
  { id := id, name := name, kind := kind, tags := [], trigger := [], recharge := .longRest
    uses := none, duration := none, active := false, effect := none }

/-- A passive ability. -/
def passive (id : AbilityId) (name : String) : Ability :=
  plain id name .passive

/-- An instant ability with a number of uses. -/
def instant (id : AbilityId) (name : String) (uses : UInt32) : Ability :=
  { plain id name .instant with uses := some (Pool.full uses) }

/-- A lasting ability with a number of uses and of turns. -/
def lasting (id : AbilityId) (name : String) (uses turns : UInt32) : Ability :=
  { plain id name .duration with
    uses := some (Pool.full uses), duration := some (Pool.empty turns) }

/-! ## Reading the state -/

/-- Uses left, or `none` if they are not limited. -/
def usesRemaining (a : Ability) : Option UInt32 :=
  a.uses.map Pool.current

/-- Turns left. -/
def turnsRemaining (a : Ability) : UInt32 :=
  match a.duration with
  | some d => d.current
  | none => 0

/-- Whether the uses are limited and all spent. -/
def isOutOfUses (a : Ability) : Bool :=
  match a.uses with
  | some u => u.isEmpty
  | none => false

/-- Whether the ability is lasting and active. -/
def isRunning (a : Ability) : Bool :=
  a.kind == .duration && a.active

/-- Succeeds when the ability can be used now: an instant one needs a use left, and a lasting one
moreover has to be inactive. -/
def checkUsable (a : Ability) : Except UsageError Unit :=
  match a.kind with
  | .passive => .ok ()
  | .instant => if a.isOutOfUses then .error (.noUsesLeft a.name) else .ok ()
  | .duration =>
    if a.active then .error (.alreadyActive a.name)
    else if a.isOutOfUses then .error (.noUsesLeft a.name)
    else .ok ()

/-- Succeeds when the ability is of the expected kind. -/
def expectKind (a : Ability) (expected : AbilityKind) : Except UsageError Unit :=
  if a.kind = expected then .ok () else .error (.wrongKind a.name expected a.kind)

/-! ## Changing the state -/

/-- The ability with one use spent, if its uses are limited. -/
def spendUse (a : Ability) : Ability :=
  { a with uses := a.uses.map Pool.spend }

/-- The ability inactive, with no turns left. -/
def stop (a : Ability) : Ability :=
  { a with active := false, duration := a.duration.map Pool.drain }

/-- The ability as granted: inactive, with all uses and no turns left. -/
def fresh (a : Ability) : Ability :=
  { a.stop with uses := a.uses.map Pool.refill }

/-- The countdown of the ability; one without a duration lasts no turns. -/
def countdown (a : Ability) : Pool :=
  a.duration.getD (Pool.empty 0)

/-- The ability activated: a use spent and all its turns left. -/
def start (a : Ability) : Ability :=
  { a.spendUse with active := true, duration := some a.countdown.refill }

/-- The turns left after one more turn. -/
def turnsAfterTick (a : Ability) : UInt32 :=
  if a.countdown.current = 0 then 0 else a.countdown.current - 1

/-- The ability after one more turn; at no turns left it ends. -/
def tick (a : Ability) : Ability :=
  { a with
    duration := some (a.countdown.set a.turnsAfterTick)
    active := a.turnsAfterTick ≠ 0 }

end Ability

/-- The effect of a freshly activated ability. -/
def ActiveEffect.ofAbility (id : EffectId) (a : Ability) : ActiveEffect :=
  { id := id
    source := a.id
    name := a.name
    duration := Pool.full (match a.duration with | some d => d.max | none => 0)
    effect := a.effect }

end Tabletop.Sheet
