import Tabletop.Proofs.Dice.Reading
import Tabletop.Proofs.Play.Life
import Tabletop.Proofs.Sums

/-!
# Attack rolls

The bonus of an attack is written into a formula, and the formula is read again before it is rolled.
What reading makes of it is the whole of this module.

* The formula always splits into its one die and the rest, whatever the bonus is, so an attack that
  was prepared is always rolled (`exists_rollD20`, `exists_attack_of_prepared`).
* The rest is the bonus, but only as long as the bonus is a flat modifier that a formula may have.
  A greater one is written into the formula and dropped when the formula is read; the die is then
  rolled without any bonus (`attack_bonus_rolled`).
-/

namespace Tabletop.Rules

open Tabletop.Dice Tabletop.Sheet Tabletop.Text

/-! ## The formula of an attack -/

namespace AttackModifiers

variable (m : AttackModifiers)

/-- The part of the bonus that reaches the roll: all of it or nothing. -/
def carried : Int32 :=
  if m.total.toInt.natAbs ≤ maxFlat then m.total else 0

/-- The terms of the formula besides its die. -/
def bonusTerms : List Term :=
  if m.carried = 0 then [] else [.flat m.carried]

lemma terms_formula : (Formula.parse m.formula).terms = .dice ⟨1, 20, .plus⟩ :: m.bonusTerms := by
  have hdie : (Formula.ofChars "1d20".toList).terms = [.dice ⟨1, 20, .plus⟩] := by decide
  unfold formula bonusTerms carried
  by_cases hzero : m.total = 0
  · rw [if_pos hzero, Formula.terms_parse, hdie]
    simp [hzero]
  · rw [if_neg hzero, Formula.terms_parse, String.toList_append, toList_withSign,
      Formula.terms_append_signedChars, hdie, flatTerm?_int32]
    by_cases hbound : m.total.toInt.natAbs ≤ maxFlat
    · simp [hbound, hzero]
    · simp [hbound]

/-- Whatever the bonus is, the formula splits into one die and the rest. -/
lemma splitD20_formula :
    (Formula.parse m.formula).splitD20 = .ok (⟨1, 20, .plus⟩, ⟨m.bonusTerms⟩) := by
  have hparse : Formula.parse m.formula = ⟨.dice ⟨1, 20, .plus⟩ :: m.bonusTerms⟩ :=
    congrArg Formula.mk m.terms_formula
  rw [hparse]
  unfold bonusTerms
  split <;> rfl

lemma componentsTotal_bonusTerms {σ : Type} [DieSource σ] (dice : σ) :
    (Formula.roll ⟨m.bonusTerms⟩ dice).1.total = m.carried ∧
      (Formula.roll ⟨m.bonusTerms⟩ dice).2 = dice := by
  unfold bonusTerms
  split
  · rename_i hzero
    exact ⟨hzero.symm, rfl⟩
  · exact ⟨zero_satAdd m.carried, rfl⟩

/-- An attack is always rolled: the die as the mode says, and the bonus that the formula carries. -/
lemma exists_rollD20 {σ : Type} [DieSource σ] (mode : RollMode) (dice : σ) :
    ∃ roll, rollD20 m.formula mode dice = (.ok roll, (rollDice mode.diceCount 20 dice).2) ∧
      roll.mode = mode ∧ roll.rolls = (rollDice mode.diceCount 20 dice).1 ∧
      roll.chosen = mode.keep roll.rolls ∧ roll.modifier = m.carried ∧
      roll.total = satAdd m.carried roll.chosen.toInt32 := by
  obtain ⟨htotal, hdice⟩ := m.componentsTotal_bonusTerms (rollDice mode.diceCount 20 dice).2
  unfold rollD20
  simp only [splitD20_formula, htotal, hdice]
  exact ⟨_, rfl, rfl, rfl, rfl, rfl, rfl⟩

end AttackModifiers

/-! ## The bonus of an attack -/

/-- The attack bonus of an ability, if it has one. -/
def attackBonus? (a : Ability) : Option Int32 :=
  a.effect.bind AbilityEffect.attackBonus

/-- What is added to an attack, as an integer: the modifier of the governing attribute, the
proficiency, and the attack bonuses of the abilities that apply. -/
def exactAttackBonus (item : Item) (c : Character) (selected : List Ability) : Int :=
  c.modifier (governingAttribute item.attackRoll) + c.proficiency +
    exactSum (selected.filterMap attackBonus?)

lemma map_value_bonusSources (selected : List Ability) :
    (bonusSources selected).map BonusSource.value = selected.filterMap attackBonus? := by
  rw [bonusSources, List.map_filterMap]
  congr 1
  funext a
  unfold bonusSource? attackBonus?
  cases a.effect.bind AbilityEffect.attackBonus <;> rfl

/-- The total is exact as soon as it fits, even where a part of it does not. -/
lemma toInt_total_attackModifiers {item : Item} {c : Character} {selected : List Ability}
    (h : FitsInt32 (exactAttackBonus item c selected)) :
    (attackModifiers item c selected).total.toInt = exactAttackBonus item c selected := by
  have hbonuses : (bonusTotal (bonusSources selected)).toInt =
      (exactSum (selected.filterMap attackBonus?)).bmod (2 ^ 32) := by
    have hsum := toInt_wrapSum BonusSource.value (bonusSources selected) 0
    rw [map_value_bonusSources] at hsum
    exact hsum.trans (congrArg (Int.bmod · (2 ^ 32)) (Int.zero_add _))
  have htotal : (attackModifiers item c selected).total.toInt =
      (exactAttackBonus item c selected).bmod (2 ^ 32) := by
    simp only [attackModifiers, exactAttackBonus, Int32.toInt_add, Int32.toInt_ofInt, hbonuses,
      Int32.size]
    simp
  rw [htotal, bmod_of_fits h]

end Tabletop.Rules

namespace Tabletop.Play

open Tabletop.Dice Tabletop.Rules Tabletop.Sheet

section Attack

variable {σ : Type} [DieSource σ] {s s' : Session} {request : AttackRequest}
  {stamps : Nat → Stamp} {dice dice' : σ}

/-! ## Attacks that are prepared are rolled -/

/-- An attack that cannot be prepared is refused before any die is rolled. -/
lemma attack_of_refused {e : AttackError}
    (h : prepareAttack s.character request stamps = .error e) :
    s.attack request stamps dice = (.error e, s, dice) := by
  unfold Session.attack
  rw [h]

/-- A prepared attack is rolled: its formula is never refused. -/
lemma exists_attack_of_prepared {prepared : PreparedAttack}
    (h : prepareAttack s.character request stamps = .ok prepared) (dice : σ) :
    ∃ outcome s' dice', s.attack request stamps dice = (.ok outcome, s', dice') := by
  have hroll := (attackModifiers prepared.item s.character prepared.selected).exists_rollD20
    (request.mode.getD s.config.rollMode) dice
  obtain ⟨roll, hroll, -⟩ := hroll
  exact ⟨_, _, _, attack_eq_ok_iff.2
    ⟨prepared, _, h, resolveAttack_eq_ok_iff.2 ⟨roll, _, _, hroll, rfl, rfl⟩, rfl⟩⟩

/-- How an outcome comes from a bonus and the first dice of a source. -/
structure AttackRolled (s : Session) (request : AttackRequest) (m : AttackModifiers) (dice : σ)
    (outcome : AttackOutcome) : Prop where
  mode : outcome.roll.mode = request.mode.getD s.config.rollMode
  rolls : outcome.roll.rolls = (rollDice outcome.roll.mode.diceCount 20 dice).1
  kept : outcome.roll.chosen = outcome.roll.mode.keep outcome.roll.rolls
  modifier : outcome.roll.modifier = m.carried
  total : outcome.roll.total = satAdd m.carried outcome.roll.chosen.toInt32
  targetAc : outcome.targetAc = request.targetAc.getD s.config.targetAc
  hit : outcome.hit = hits outcome.roll outcome.targetAc
  critical : outcome.critical = outcome.roll.isCritical

lemma attackRolled {attack : PreparedAttack} {outcome : AttackOutcome}
    (hprepared : prepareAttack s.character request stamps = .ok attack)
    (h : s.attack request stamps dice = (.ok outcome, s', dice')) :
    AttackRolled s request (attackModifiers attack.item s.character attack.selected) dice
      outcome := by
  obtain ⟨attack', c', hprepared', hresolved, -⟩ := attack_eq_ok_iff.1 h
  obtain rfl : attack = attack' := Except.ok.inj (hprepared.symm.trans hprepared')
  obtain ⟨roll, rolled, damage, hroll, -, hsettled⟩ := resolveAttack_eq_ok_iff.1 hresolved
  obtain ⟨rfl, -⟩ := Prod.mk.inj hsettled
  -- The formula of an attack can always be split, so the roll is the one `exists_rollD20`
  -- describes.
  obtain ⟨roll', hroll', hmode, hrolls, hkept, hmodifier, htotal⟩ :=
    (attackModifiers attack.item s.character attack.selected).exists_rollD20
      (request.mode.getD s.config.rollMode) dice
  obtain rfl : roll = roll' := Except.ok.inj (Prod.mk.inj (hroll.symm.trans hroll')).1
  rw [← hmode] at hrolls hkept
  exact
    { mode := hmode
      rolls := hrolls
      kept := hkept
      modifier := hmodifier
      total := htotal
      targetAc := rfl
      hit := rfl
      critical := rfl }

/-- The entry of an accepted attack is the last of the log and tells what the outcome tells. -/
lemma entry_of_attack {outcome : AttackOutcome}
    (h : s.attack request stamps dice = (.ok outcome, s', dice')) :
    s'.character.combatLog.last? = some outcome.entry ∧
      ∃ account, outcome.entry.event = .attack account ∧
        account.modifier = outcome.roll.modifier ∧ account.total = outcome.roll.total ∧
        account.damage = outcome.damage.map fun d => d.record outcome.critical := by
  obtain ⟨prepared, c', -, hresolved, rfl⟩ := attack_eq_ok_iff.1 h
  obtain ⟨roll, rolled, damage, -, -, hsettled⟩ := resolveAttack_eq_ok_iff.1 hresolved
  obtain ⟨rfl, rfl⟩ := Prod.mk.inj hsettled
  exact ⟨List.getLast?_concat, _, rfl, rfl, rfl, rfl⟩

/-! ## What is rolled -/

/-- **The attack bonus that is rolled.**  As long as the modifier of the attribute, the proficiency
and the attack bonuses of the abilities add up to an integer of 32 bits, the total that an accepted
attack reports is that integer.  It is what is added to the kept die, in the outcome and in the log,
if it is not greater than a flat modifier of a formula may be; otherwise nothing is added. -/
theorem attack_bonus_rolled {outcome : AttackOutcome}
    (h : s.attack request stamps dice = (.ok outcome, s', dice')) :
    ∃ attack account, prepareAttack s.character request stamps = .ok attack ∧
      s'.character.combatLog.last? = some outcome.entry ∧
      outcome.entry.event = .attack account ∧
      account.modifier = outcome.roll.modifier ∧ account.total = outcome.roll.total ∧
      ∀ bonus, bonus = exactAttackBonus attack.item s.character attack.selected →
        FitsInt32 bonus →
        outcome.modifiers.total.toInt = bonus ∧
        (bonus.natAbs ≤ maxFlat → outcome.roll.modifier.toInt = bonus) ∧
        (maxFlat < bonus.natAbs → outcome.roll.modifier = 0) ∧
        outcome.roll.chosen = outcome.roll.mode.keep outcome.roll.rolls ∧
        (outcome.roll.chosen.toNat < 2 ^ 31 → outcome.roll.total =
          saturate (outcome.roll.chosen.toNat + outcome.roll.modifier.toInt)) := by
  obtain ⟨hlast, account, hevent, hmodifier, htotal, -⟩ := entry_of_attack h
  obtain ⟨attack, c', hprepared, hresolved, -⟩ := attack_eq_ok_iff.1 h
  obtain ⟨roll, rolled, damage, hroll, -, hsettled⟩ := resolveAttack_eq_ok_iff.1 hresolved
  obtain ⟨rfl, -⟩ := Prod.mk.inj hsettled
  refine ⟨attack, account, hprepared, hlast, hevent, hmodifier, htotal, ?_⟩
  -- From here on the bonus is the exact one, and small enough that no sum has wrapped.
  rintro _ rfl hfits
  obtain ⟨roll', hroll', hmode, -, hchosen, hcarried, hsum⟩ :=
    (attackModifiers attack.item s.character attack.selected).exists_rollD20
      (request.mode.getD s.config.rollMode) dice
  obtain rfl : roll = roll' := Except.ok.inj (Prod.mk.inj (hroll.symm.trans hroll')).1
  have hbonus := toInt_total_attackModifiers hfits
  refine ⟨hbonus, fun hbound => ?_, fun hbound => ?_, ?_, fun hkept => ?_⟩
  · show roll.modifier.toInt = _
    rw [hcarried, AttackModifiers.carried, hbonus, if_pos hbound, hbonus]
  · show roll.modifier = 0
    rw [hcarried, AttackModifiers.carried, hbonus, if_neg (Nat.not_le.2 hbound)]
  · show roll.chosen = roll.mode.keep roll.rolls
    rw [hchosen, hmode]
  · show roll.total = saturate (roll.chosen.toNat + roll.modifier.toInt)
    rw [hsum, hcarried, satAdd, toInt_toInt32 hkept, Int.add_comm]

end Attack

/-- A fighter with a longsword, whose blessing adds the given bonus to every attack. -/
def blessedFighter (bonus : Int32) : Session :=
  let blessing : Ability :=
    { Ability.passive (numbered 9) "Blessing" with
      trigger := ["attack"]
      effect := some { AbilityEffect.empty with attackBonus := some bonus } }
  let fighter := sampleFighter (numbered 100) "Roland" numbered (numbered 200)
  Session.new { fighter with abilities := fighter.abilities ++ [blessing] } .default

/-- What a computation yields, read off its result. -/
lemma exists_of_map_toOption {ε α β : Type} {x : Except ε α} {f : α → β} {b : β}
    (h : x.toOption.map f = some b) : ∃ a, x = .ok a ∧ f a = b := by
  cases x with
  | error e => simp [Except.toOption] at h
  | ok a => exact ⟨a, rfl, Option.some.inj h⟩

/-- The greatest blessing that is rolled with the five that a fighter has anyway: a million in all. -/
theorem attack_bonus_rolled_blessed :
    let s := blessedFighter 999995
    ∃ outcome s' dice',
      s.attack (.ofItem (numbered 200)) (Fresh.numbered 1).stamps (ScriptedDice.ofList [10, 4, 4]) =
        (.ok outcome, s', dice') ∧
      FitsInt32 1000000 ∧ outcome.modifiers.total.toInt = 1000000 ∧
      outcome.roll.modifier.toInt = 1000000 := by
  intro s
  have hready : (prepareAttack s.character (.ofItem (numbered 200))
      (Fresh.numbered 1).stamps).toOption.map (fun attack =>
        exactAttackBonus attack.item s.character attack.selected) = some 1000000 := by
    decide +kernel
  obtain ⟨attack, hprepared, hbonus⟩ := exists_of_map_toOption hready
  obtain ⟨outcome, s', dice', hattack⟩ :=
    exists_attack_of_prepared hprepared (ScriptedDice.ofList [10, 4, 4])
  obtain ⟨attack', account, hprepared', -, -, -, -, hrolled⟩ := attack_bonus_rolled hattack
  obtain rfl : attack = attack' := Except.ok.inj (hprepared.symm.trans hprepared')
  have hfits : FitsInt32 1000000 := by decide
  obtain ⟨htotal, hmodifier, -⟩ := hrolled 1000000 hbonus.symm hfits
  exact ⟨outcome, s', dice', hattack, hfits, htotal, hmodifier (by decide)⟩

/-- **A bonus that is dropped.**  With a blessing of two millions an attack adds up to two millions
and five, which its outcome reports, but the die is rolled without any bonus. -/
theorem attack_bonus_dropped :
    let s := blessedFighter 2000000
    let request : AttackRequest := .ofItem (numbered 200)
    (FitsInt32 2000005 ∧
      (prepareAttack s.character request (Fresh.numbered 1).stamps).toOption.map (fun attack =>
        exactAttackBonus attack.item s.character attack.selected) = some 2000005) ∧
    (s.attack request (Fresh.numbered 1).stamps (ScriptedDice.ofList [10, 4, 4])).1.toOption.map
        (fun outcome =>
          (outcome.modifiers.total, outcome.roll.chosen, outcome.roll.modifier,
            outcome.roll.total)) =
      some (2000005, 10, 0, 10) := by
  decide +kernel

end Tabletop.Play
