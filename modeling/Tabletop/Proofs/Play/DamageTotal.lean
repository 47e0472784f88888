import Tabletop.Proofs.Play.AttackRoll

/-!
# Damage totals

The rolls of a hit are added up twice, once for each type of damage and once for all of them.  As
long as neither way stops at the bounds of 32 bits, the two agree except in one respect: the damage
dealt is never negative, while the amounts by type are left as they were rolled.  So the damage dealt
is the sum of the amounts or zero, whichever is greater (`damage_total`), and where penalties outweigh
the dice the amounts add up to less than is dealt (`damage_parts_below_total`).
-/

namespace Tabletop.Play

open Tabletop.Dice Tabletop.Rules Tabletop.Sheet

/-! ## Adding up by type -/

/-- The parts of the damage and their rolls, by type. -/
def partsByType (breakdown : List DamageSource) (rolls : List RollResult) :
    List (String × List (DamageSource × RollResult)) :=
  groupInOrder (fun part => part.1.groupType) (breakdown.zip rolls)

/-- Whether the rolls of a hit can be added up without stopping at a bound, all of them and those of
each type. -/
def DamageOutcome.Unsaturated (d : DamageOutcome) : Prop :=
  Tabletop.Unsaturated (d.rolls.map RollResult.total) ∧
    ∀ group ∈ partsByType d.resolution.breakdown d.rolls,
      Tabletop.Unsaturated (group.2.map fun part => part.2.total)

instance (d : DamageOutcome) : Decidable d.Unsaturated :=
  inferInstanceAs (Decidable (_ ∧ _))

/-- The amounts by type add up to the rolls of the parts. -/
lemma exactSum_amountsByType {breakdown : List DamageSource} {rolls : List RollResult}
    (hlength : rolls.length = breakdown.length)
    (h : ∀ group ∈ partsByType breakdown rolls,
      Tabletop.Unsaturated (group.2.map fun part => part.2.total)) :
    exactSum ((amountsByType breakdown rolls).map DamageByType.amount) =
      exactSum (rolls.map RollResult.total) := by
  let value : DamageSource × RollResult → Int := fun part => part.2.total.toInt
  -- Each group is summed up within the range, so its amount is the sum of its parts as integers.
  have hamounts : exactSum ((amountsByType breakdown rolls).map DamageByType.amount) =
      groupSum value (partsByType breakdown rolls) := by
    unfold exactSum groupSum amountsByType
    rw [List.map_map, List.map_map]
    refine congrArg List.sum (List.map_congr_left fun group hgroup => ?_)
    have hexact := toInt_satSum (h group hgroup)
    rw [exactSum, List.map_map] at hexact
    exact hexact
  have hparts : (breakdown.zip rolls).map Prod.snd = rolls :=
    List.map_snd_zip (Nat.le_of_eq hlength)
  calc
    exactSum ((amountsByType breakdown rolls).map DamageByType.amount)
      = groupSum value (partsByType breakdown rolls) := hamounts
    _ = ((breakdown.zip rolls).map value).sum := groupSum_groupInOrder value _ _
    _ = exactSum (((breakdown.zip rolls).map Prod.snd).map RollResult.total) := by
        rw [exactSum, List.map_map, List.map_map]
        rfl
    _ = exactSum (rolls.map RollResult.total) := by rw [hparts]

/-! ## The damage of a hit -/

section Hit

variable {σ : Type} [DieSource σ]

lemma length_rollSources (critical : Bool) (sources : List DamageSource) (dice : σ) :
    (rollSources critical sources dice).1.length = sources.length := by
  induction sources generalizing dice with
  | nil => rfl
  | cons source sources ih => exact congrArg Nat.succ (ih _)

/-- The damage dealt is what the amounts by type add up to, or zero. -/
lemma total_rollDamage {resolution : DamageResolution} {critical : Bool} {dice dice' : σ}
    {d : DamageOutcome} (hrolled : rollDamage resolution critical dice = (d, dice'))
    (h : d.Unsaturated) : d.total.toInt = max 0 (exactSum (d.byType.map DamageByType.amount)) := by
  obtain ⟨rfl, -⟩ := Prod.mk.inj hrolled
  obtain ⟨hrolls, hgroups⟩ := h
  have hlength := length_rollSources critical resolution.breakdown dice
  have hparts := exactSum_amountsByType hlength hgroups
  have hfloor : ∀ v : Int32, (max v 0).toInt = max 0 v.toInt :=
    fun v => (toInt_max v 0).trans (Int.max_comm _ _)
  exact (hfloor _).trans (congrArg (max 0) ((toInt_satSum hrolls).trans hparts.symm))

variable {s s' : Session} {request : AttackRequest} {stamps : Nat → Stamp} {dice dice' : σ}

/-- The damage of an attack that hits. -/
lemma exists_damage_of_hit {outcome : AttackOutcome}
    (h : s.attack request stamps dice = (.ok outcome, s', dice')) (hhit : outcome.hit = true) :
    ∃ attack d rolled, prepareAttack s.character request stamps = .ok attack ∧
      rollDamage (damageModifiers attack.item s.character attack.selected) outcome.critical rolled =
        (d, dice') ∧ outcome.damage = some d := by
  obtain ⟨attack, c', hprepared, hresolved, -⟩ := attack_eq_ok_iff.1 h
  obtain ⟨roll, rolled, damage, -, hdamage, hsettled⟩ := resolveAttack_eq_ok_iff.1 hresolved
  obtain ⟨rfl, -⟩ := Prod.mk.inj hsettled
  have hhits : hits roll (request.targetAc.getD s.config.targetAc) = true := hhit
  rw [damageIfHit, if_pos hhits] at hdamage
  obtain ⟨rfl, rfl⟩ := Prod.mk.inj hdamage
  exact ⟨attack, _, rolled, hprepared, rfl, rfl⟩

/-- **The damage dealt.**  An attack that hits deals what the amounts by type add up to, or zero if
that is negative, unless a sum stops at a bound.  The log has the same amounts and the same total. -/
theorem damage_total {outcome : AttackOutcome}
    (h : s.attack request stamps dice = (.ok outcome, s', dice')) (hhit : outcome.hit = true) :
    ∃ d account logged, outcome.damage = some d ∧
      s'.character.combatLog.last? = some outcome.entry ∧
      outcome.entry.event = .attack account ∧ account.damage = some logged ∧
      logged.types = d.byType ∧ logged.result = d.total ∧
      (d.Unsaturated →
        d.total.toInt = max 0 (exactSum (d.byType.map DamageByType.amount))) := by
  obtain ⟨attack, d, rolled, -, hrolled, hdamage⟩ := exists_damage_of_hit h hhit
  obtain ⟨hlast, account, hevent, -, -, hlogged⟩ := entry_of_attack h
  rw [hdamage] at hlogged
  exact ⟨d, account, d.record outcome.critical, hdamage, hlast, hevent, hlogged, rfl, rfl,
    total_rollDamage hrolled⟩

end Hit

/-- A fighter with a longsword, who is too weak for it. -/
def feebleFighter : Session :=
  let fighter := sampleFighter (numbered 100) "Roland" numbered (numbered 200)
  Session.new { fighter with attributes := Attributes.ofScores 1 14 14 10 12 8 } .default

/-- The sword takes away more than its die gives, and the fighter's training makes up for it. -/
theorem damage_total_feeble :
    let s := feebleFighter
    ∃ outcome s' dice' d,
      s.attack (.ofItem (numbered 200)) (Fresh.numbered 1).stamps (ScriptedDice.ofList [19, 2, 4]) =
        (.ok outcome, s', dice') ∧
      outcome.hit = true ∧ outcome.damage = some d ∧ d.Unsaturated ∧
      d.byType = [⟨"slashing", -3⟩, ⟨"physical", 6⟩] ∧ d.total.toInt = 3 := by
  intro s
  have hrun : (s.attack (.ofItem (numbered 200)) (Fresh.numbered 1).stamps
      (ScriptedDice.ofList [19, 2, 4])).1.toOption.map (fun outcome =>
        (outcome.hit, outcome.damage.map fun d => (decide d.Unsaturated, d.byType))) =
      some (true, some (true, [⟨"slashing", -3⟩, ⟨"physical", 6⟩])) := by
    decide +kernel
  generalize hattack : s.attack (.ofItem (numbered 200)) (Fresh.numbered 1).stamps
    (ScriptedDice.ofList [19, 2, 4]) = run at hrun
  obtain ⟨answer, s', dice'⟩ := run
  obtain ⟨outcome, rfl, hvalue⟩ := exists_of_map_toOption hrun
  obtain ⟨hhit, hparts⟩ := Prod.mk.inj hvalue
  obtain ⟨d, -, -, hdamage, -, -, -, -, -, htotal⟩ := damage_total hattack hhit
  rw [hdamage, Option.map_some, Option.some.injEq, Prod.mk.injEq, decide_eq_true_eq] at hparts
  obtain ⟨hexact, htypes⟩ := hparts
  refine ⟨outcome, s', dice', d, rfl, hhit, hdamage, hexact, htypes, ?_⟩
  rw [htotal hexact, htypes]
  decide

/-- **Amounts that add up to less than is dealt.**  With low dice the amounts by type add up to a
negative number, but the damage dealt is zero. -/
theorem damage_parts_below_total :
    let s := feebleFighter
    (s.attack (.ofItem (numbered 200)) (Fresh.numbered 1).stamps
        (ScriptedDice.ofList [19, 1, 1])).1.toOption.map (fun outcome =>
          (outcome.hit, outcome.damage.map fun d =>
            (decide d.Unsaturated, exactSum (d.byType.map DamageByType.amount), d.total.toInt))) =
      some (true, some (true, -1, 0)) := by
  decide +kernel

end Tabletop.Play
