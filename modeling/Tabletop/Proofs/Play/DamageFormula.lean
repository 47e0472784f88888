import Tabletop.Proofs.Dice.Drawing
import Tabletop.Proofs.Play.Life
import Tabletop.Proofs.Sums

/-!
# The damage formula

The damage of an attack is shown as one formula, but what is rolled are its parts: the formula of the
item and then each bonus by itself.  The shown formula is text put together from those parts, with
the constants collected into one at its end, and it may begin or end with signs of its own.  As long
as the constants are within the bound of flat modifiers together, reading the shown formula gives the
dice of the parts, in their order, and constants with the same sum; so the dice that are rolled are
those of the formula that is shown (`damage_formula_rolled`).

Two facts carry this.  Putting texts together puts their terms together, whatever the texts are
(`terms_withBonuses`, `DamageBonuses.terms_formula`), and a constant written by itself is read as
that constant, so that it can be moved to the end (`dice_written`, `exactSum_flats_written`).
-/

namespace Tabletop.Dice.Formula

/-- The flat modifiers of a formula, in order. -/
def flats (f : Formula) : List Int32 :=
  f.terms.filterMap fun
    | .dice _ => none
    | .flat value => some value

lemma flats_append (terms terms' : List Term) :
    flats ⟨terms ++ terms'⟩ = flats ⟨terms⟩ ++ flats ⟨terms'⟩ :=
  List.filterMap_append

end Tabletop.Dice.Formula

namespace Tabletop.Sheet.DamageBonus

open Tabletop.Text

def formula? : DamageBonus → Option String
  | .dice formula => some formula
  | .flat _ => none

def value? : DamageBonus → Option Int32
  | .dice _ => none
  | .flat value => some value

/-- A bonus as a formula. -/
def written : DamageBonus → String
  | .dice formula => formula
  | .flat value => ofInt value.toInt

end Tabletop.Sheet.DamageBonus

namespace Tabletop.Rules

open Tabletop.Dice Tabletop.Sheet Tabletop.Text

/-! ## Bonuses -/

/-- The damage bonus of an ability, if it has one. -/
def damageBonus? (a : Ability) : Option DamageBonus :=
  a.effect.bind AbilityEffect.damageBonus

/-- The damage bonuses of a list of abilities, in order. -/
def damageBonuses (selected : List Ability) : List DamageBonus :=
  selected.filterMap damageBonus?

/-- The constants among the damage bonuses of a list of abilities. -/
def flatBonuses (selected : List Ability) : List Int32 :=
  (damageBonuses selected).filterMap DamageBonus.value?

/-- The parts of the damage as one formula. -/
def DamageResolution.parts (r : DamageResolution) : Formula :=
  ⟨r.breakdown.flatMap fun source => (Formula.parse source.formula).terms⟩

namespace DamageBonuses

variable {a : Ability} {bonus : DamageBonus}

lemma add_of_none (b : DamageBonuses) (h : damageBonus? a = none) : b.add a = b := by
  unfold add
  unfold damageBonus? at h
  cases heffect : a.effect with
  | none => rfl
  | some effect =>
      rw [heffect, Option.bind_some] at h
      simp only [h]

/-- An ability adds its bonus to the dice or to the constant, and to the breakdown. -/
lemma add_of_some (b : DamageBonuses) (h : damageBonus? a = some bonus) :
    (b.add a).dice = b.dice ++ bonus.formula?.toList ∧
      (b.add a).flat = bonus.value?.toList.foldl (fun total value => total + value) b.flat ∧
      (b.add a).breakdown.map DamageSource.formula =
        b.breakdown.map DamageSource.formula ++ [bonus.written] := by
  unfold add
  unfold damageBonus? at h
  cases heffect : a.effect with
  | none => simp [heffect] at h
  | some effect =>
      rw [heffect, Option.bind_some] at h
      simp only [h]
      cases bonus with
      | dice formula => simp [DamageBonus.formula?, DamageBonus.value?, DamageBonus.written]
      | flat value => simp [DamageBonus.formula?, DamageBonus.value?, DamageBonus.written]

lemma foldl_add (selected : List Ability) (b : DamageBonuses) :
    (selected.foldl add b).dice =
        b.dice ++ (damageBonuses selected).filterMap DamageBonus.formula? ∧
      (selected.foldl add b).flat =
        (flatBonuses selected).foldl (fun total value => total + value) b.flat ∧
      (selected.foldl add b).breakdown.map DamageSource.formula =
        b.breakdown.map DamageSource.formula ++
          (damageBonuses selected).map DamageBonus.written := by
  -- By induction on the abilities, from any bonuses: the accumulator is what has been collected so
  -- far, and an ability without a bonus adds nothing to it.
  induction selected generalizing b with
  | nil => simp [damageBonuses, flatBonuses]
  | cons a selected ih =>
      obtain ⟨hdice, hflat, hbreakdown⟩ := ih (b.add a)
      rw [List.foldl_cons, hdice, hflat, hbreakdown, flatBonuses, flatBonuses]
      cases hbonus : damageBonus? a with
      | none =>
          have hskip : damageBonuses (a :: selected) = damageBonuses selected :=
            List.filterMap_cons_none hbonus
          rw [add_of_none b hbonus, hskip]
          exact ⟨rfl, rfl, rfl⟩
      | some bonus =>
          have htake : damageBonuses (a :: selected) = [bonus] ++ damageBonuses selected :=
            List.filterMap_cons_some hbonus
          obtain ⟨hdice, hflat, hbreakdown⟩ := add_of_some b hbonus
          rw [hdice, hflat, hbreakdown, htake, List.filterMap_append, List.filterMap_append,
            List.foldl_append, List.map_append, List.append_assoc, List.append_assoc]
          cases bonus <;> exact ⟨rfl, rfl, rfl⟩

/-! ## Texts put together -/

/-- The bonuses read as the terms of their dice, and then the constant. -/
lemma terms_formula (b : DamageBonuses) (h : b.flat.toInt.natAbs ≤ maxFlat) :
    (Formula.parse b.formula).terms =
      (b.dice.flatMap fun text => (Formula.parse text).terms) ++
        if b.flat = 0 then [] else [.flat b.flat] := by
  rw [← Formula.terms_join]
  unfold formula
  dsimp only
  by_cases hzero : b.flat = 0
  · rw [if_pos hzero, if_pos hzero, List.append_nil]
  · rw [if_neg hzero, if_neg hzero, ← Formula.terms_ofInt h]
    split
    · -- The dice can be there and still have an empty text.
      rename_i hempty
      rw [String.isEmpty_iff.1 hempty]
      rfl
    · split
      · rw [Formula.terms_parse, String.toList_append, String.toList_append, List.append_assoc]
        exact Formula.terms_plus _ _
      · rename_i hnot
        -- What is neither zero nor positive brings its own minus, which joins it to the dice.
        have hne : b.flat.toInt ≠ 0 := fun hflat => hzero (Int32.toInt_inj.1 hflat)
        have hneg : b.flat.toInt < 0 := by omega
        have hwritten : (ofInt b.flat.toInt).toList = '-' :: (ofNat b.flat.toInt.natAbs).toList := by
          rw [toList_ofInt, intChars, if_pos hneg]
          exact congrArg _ String.toList_ofList.symm
        rw [Formula.terms_parse, String.toList_append, String.toList_append, List.append_assoc,
          Formula.terms_parse (ofInt _), hwritten]
        exact Formula.terms_minus _ _

end DamageBonuses

/-- Behind a formula, the bonuses read as they do by themselves. -/
lemma terms_withBonuses (base bonuses : String) :
    (Formula.parse (withBonuses base bonuses)).terms =
      (Formula.parse base).terms ++ (Formula.parse bonuses).terms := by
  rw [Formula.terms_parse bonuses]
  unfold withBonuses
  split
  · rename_i hnil
    rw [hnil]
    exact (List.append_nil _).symm
  · rename_i rest hminus
    have hrest : (String.ofList rest).toList = rest := String.toList_ofList
    rw [hminus, Formula.terms_parse, String.toList_append, String.toList_append, hrest,
      List.append_assoc]
    exact Formula.terms_minus _ _
  · rw [Formula.terms_parse, String.toList_append, String.toList_append, List.append_assoc]
    exact Formula.terms_plus _ _

/-! ## Constants moved to the end -/

section Written

variable {bonuses : List DamageBonus}
  (h : ((bonuses.filterMap DamageBonus.value?).map fun v => v.toInt.natAbs).sum ≤ maxFlat)

include h

/-- The dice of written bonuses are those of the bonuses of dice. -/
lemma dice_written :
    Formula.dice ⟨bonuses.flatMap fun bonus => (Formula.parse bonus.written).terms⟩ =
      Formula.dice ⟨(bonuses.filterMap DamageBonus.formula?).flatMap fun text =>
        (Formula.parse text).terms⟩ := by
  induction bonuses with
  | nil => rfl
  | cons bonus bonuses ih =>
      rw [List.flatMap_cons, Formula.dice_append]
      cases bonus with
      | dice formula =>
          rw [ih h, ← Formula.dice_append]
          rfl
      | flat value =>
          -- The bound on all constants is one on this constant and one on the others.
          have hsum : value.toInt.natAbs +
              ((bonuses.filterMap DamageBonus.value?).map fun v => v.toInt.natAbs).sum ≤
                maxFlat := h
          have hterms : (Formula.parse (DamageBonus.flat value).written).terms = [.flat value] :=
            Formula.terms_ofInt (by omega)
          rw [hterms, ih (by omega)]
          rfl

/-- The constants of written bonuses are those of the bonuses of dice and the constant bonuses. -/
lemma exactSum_flats_written :
    exactSum (Formula.flats ⟨bonuses.flatMap fun bonus => (Formula.parse bonus.written).terms⟩) =
      exactSum (Formula.flats ⟨(bonuses.filterMap DamageBonus.formula?).flatMap fun text =>
        (Formula.parse text).terms⟩) + exactSum (bonuses.filterMap DamageBonus.value?) := by
  induction bonuses with
  | nil => rfl
  | cons bonus bonuses ih =>
      rw [List.flatMap_cons, Formula.flats_append, exactSum_append]
      cases bonus with
      | dice formula =>
          rw [ih h, ← Int.add_assoc, ← exactSum_append, ← Formula.flats_append]
          rfl
      | flat value =>
          have hsum : value.toInt.natAbs +
              ((bonuses.filterMap DamageBonus.value?).map fun v => v.toInt.natAbs).sum ≤
                maxFlat := h
          have hterms : (Formula.parse (DamageBonus.flat value).written).terms = [.flat value] :=
            Formula.terms_ofInt (by omega)
          have hvalue : exactSum (Formula.flats ⟨[.flat value]⟩) = value.toInt := Int.add_zero _
          have hvalues : (DamageBonus.flat value :: bonuses).filterMap DamageBonus.value? =
              value :: bonuses.filterMap DamageBonus.value? := rfl
          have hskip : (DamageBonus.flat value :: bonuses).filterMap DamageBonus.formula? =
              bonuses.filterMap DamageBonus.formula? := rfl
          -- The constant comes before the remaining dice on the left, after all dice on the right.
          rw [hterms, ih (by omega), hvalue, hvalues, hskip, exactSum_cons]
          omega

end Written

/-! ## The formula and its parts -/

section Resolution

variable {selected : List Ability}
  (h : ((flatBonuses selected).map fun v => v.toInt.natAbs).sum ≤ maxFlat)

include h

/-- The collected constant is exact, and within the bound of flat modifiers. -/
lemma flat_ofAbilities :
    (DamageBonuses.ofAbilities selected).flat.toInt = exactSum (flatBonuses selected) ∧
      (DamageBonuses.ofAbilities selected).flat.toInt.natAbs ≤ maxFlat := by
  have hsum : (exactSum (flatBonuses selected)).natAbs ≤ maxFlat :=
    Nat.le_trans (natAbs_exactSum_le _) h
  -- The constant is collected in additions that wrap, so that it is exact only because the sum of
  -- the sizes, and with it every sum on the way, is small.
  have hfits : FitsInt32 (exactSum (flatBonuses selected)) := by
    have hbound : (exactSum (flatBonuses selected)).natAbs ≤ 1000000 := hsum
    unfold FitsInt32
    omega
  have hexact : (DamageBonuses.ofAbilities selected).flat.toInt =
      exactSum (flatBonuses selected) :=
    calc
      (DamageBonuses.ofAbilities selected).flat.toInt
        = ((flatBonuses selected).foldl (fun total value => total + value) (0 : Int32)).toInt :=
          congrArg Int32.toInt (DamageBonuses.foldl_add selected .empty).2.1
      _ = (0 + exactSum ((flatBonuses selected).map fun value => value)).bmod (2 ^ 32) :=
          toInt_wrapSum (fun value => value) (flatBonuses selected) 0
      _ = exactSum (flatBonuses selected) := by rw [List.map_id', Int.zero_add, bmod_of_fits hfits]
  exact ⟨hexact, hexact ▸ hsum⟩

variable (item : Item) (c : Character)

/-- The formula reads as the item's damage, the dice of the bonuses, and the constant. -/
lemma parse_damageModifiers :
    Formula.parse (damageModifiers item c selected).formula =
      ⟨(Formula.parse (substitute (item.damageRoll.getD "0") c)).terms ++
        (((damageBonuses selected).filterMap DamageBonus.formula?).flatMap fun text =>
            (Formula.parse text).terms) ++
          if (DamageBonuses.ofAbilities selected).flat = 0 then []
          else [.flat (DamageBonuses.ofAbilities selected).flat]⟩ := by
  have hdice : (DamageBonuses.ofAbilities selected).dice =
      (damageBonuses selected).filterMap DamageBonus.formula? :=
    (DamageBonuses.foldl_add selected .empty).1
  obtain ⟨-, hbound⟩ := flat_ofAbilities h
  rw [List.append_assoc, ← hdice, ← DamageBonuses.terms_formula _ hbound]
  exact congrArg Formula.mk (terms_withBonuses _ _)

omit h in
/-- The parts read as the item's damage and then each bonus. -/
lemma parts_damageModifiers :
    (damageModifiers item c selected).parts =
      ⟨(Formula.parse (substitute (item.damageRoll.getD "0") c)).terms ++
        (damageBonuses selected).flatMap fun bonus => (Formula.parse bonus.written).terms⟩ := by
  have hbreakdown : (DamageBonuses.ofAbilities selected).breakdown.map DamageSource.formula =
      (damageBonuses selected).map DamageBonus.written :=
    (DamageBonuses.foldl_add selected .empty).2.2
  let read : String → List Term := fun text => (Formula.parse text).terms
  have hbonuses : ((damageBonuses selected).flatMap fun bonus => read bonus.written) =
      (DamageBonuses.ofAbilities selected).breakdown.flatMap fun source => read source.formula := by
    rw [← List.flatMap_map DamageBonus.written read, ← hbreakdown, List.flatMap_map]
  exact congrArg (fun terms => Formula.mk (_ ++ terms)) hbonuses.symm

/-- The formula has the dice of its parts, in order, -/
lemma dice_damageModifiers :
    (Formula.parse (damageModifiers item c selected).formula).dice =
      (damageModifiers item c selected).parts.dice := by
  have hconstant : ∀ v : Int32, Formula.dice ⟨if v = 0 then [] else [.flat v]⟩ = [] := by
    intro v
    split <;> rfl
  rw [parse_damageModifiers h, parts_damageModifiers, Formula.dice_append, Formula.dice_append,
    Formula.dice_append, hconstant, dice_written h, List.append_nil]

/-- and its constants add up to the same. -/
lemma exactSum_flats_damageModifiers :
    exactSum (Formula.parse (damageModifiers item c selected).formula).flats =
      exactSum (damageModifiers item c selected).parts.flats := by
  have hconstant : ∀ v : Int32,
      exactSum (Formula.flats ⟨if v = 0 then [] else [.flat v]⟩) = v.toInt := by
    intro v
    split
    · rename_i hzero
      rw [hzero]
      rfl
    · exact Int.add_zero _
  obtain ⟨hexact, -⟩ := flat_ofAbilities h
  rw [parse_damageModifiers h, parts_damageModifiers, Formula.flats_append, Formula.flats_append,
    Formula.flats_append, exactSum_append, exactSum_append, exactSum_append, hconstant, hexact,
    exactSum_flats_written h, Int.add_assoc]
  rfl

end Resolution

end Tabletop.Rules

namespace Tabletop.Play

open Tabletop.Dice Tabletop.Rules Tabletop.Sheet

/-! ## Rolling the parts -/

section Roll

variable {σ : Type} [DieSource σ]

lemma drawn_damageFormula (critical : Bool) (text : String) (dice : σ) :
    (((damageFormula critical text).roll dice).1.drawn,
        ((damageFormula critical text).roll dice).2) =
      drawDice (if critical then 2 else 1) (Formula.parse text).dice dice := by
  cases critical with
  | true => exact drawn_roll_doubled text dice
  | false => exact drawn_roll (Formula.parse text) dice

/-- The parts of a breakdown take their dice one part after the other. -/
lemma drawn_rollSources (critical : Bool) (sources : List DamageSource) (dice : σ) :
    ((rollSources critical sources dice).1.flatMap RollResult.drawn,
        (rollSources critical sources dice).2) =
      drawDice (if critical then 2 else 1)
        (Formula.dice ⟨sources.flatMap fun source => (Formula.parse source.formula).terms⟩)
        dice := by
  induction sources generalizing dice with
  | nil => rfl
  | cons source sources ih =>
      have hfirst := drawn_damageFormula critical source.formula dice
      have hrest := ih ((damageFormula critical source.formula).roll dice).2
      rw [List.flatMap_cons, Formula.dice_append, drawDice_append, ← hfirst, ← hrest]
      rfl

end Roll

/-- **The formula that is shown is the formula that is rolled.**  If the constant damage bonuses are
within the bound of flat modifiers together, the shown formula has the dice of the parts of the
damage, in order and with their signs, and constants with the same sum.  The damage of a hit takes
exactly these dice from the source, twice as many on a critical hit, and reports that formula, its
dice doubled on a critical hit. -/
theorem damage_formula_rolled (item : Item) (c : Character) (selected : List Ability)
    (h : ((flatBonuses selected).map fun v => v.toInt.natAbs).sum ≤ maxFlat) :
    let r := damageModifiers item c selected
    let shown := Formula.parse r.formula
    shown.dice = r.parts.dice ∧ exactSum shown.flats = exactSum r.parts.flats ∧
    ∀ (σ : Type) [DieSource σ] (critical : Bool) (dice : σ),
      let rolled := rollDamage r critical dice
      (rolled.1.rolls.flatMap RollResult.drawn, rolled.2) =
          drawDice (if critical then 2 else 1) shown.dice dice ∧
        rolled.1.formula = if critical then shown.doubled.text else r.formula := by
  intro r shown
  have hdice : shown.dice = r.parts.dice := dice_damageModifiers h item c
  refine ⟨hdice, exactSum_flats_damageModifiers h item c, ?_⟩
  intro σ _ critical dice
  constructor
  · rw [hdice]
    exact drawn_rollSources critical r.breakdown dice
  · cases critical <;> rfl

/-- The sum of the constants is negative, one bonus begins with a minus, and two texts end with a
sign. -/
theorem damage_formula_rolled_signs :
    let flail := Item.weapon (numbered 200) "Flail" "1d20+@STR" "1d8 + @STR -" "bludgeoning"
    let fighter := sampleFighter (numbered 100) "Roland" numbered (numbered 300)
    let blessing (bonus : DamageBonus) : Ability :=
      { Ability.passive (numbered 9) "Blessing" with effect := some (damaging bonus) }
    let selected := [.dice "-1d4", .flat 3, .dice "2d6 +", .flat (-5)].map blessing
    let r := damageModifiers flail fighter selected
    ((flatBonuses selected).map fun v => v.toInt.natAbs).sum ≤ maxFlat ∧
    r.formula = "1d8 +3 - - 1d4 + 2d6 + - 2" ∧
    r.parts.dice = [⟨1, 8, .plus⟩, ⟨1, 4, .minus⟩, ⟨2, 6, .plus⟩] ∧
    exactSum r.parts.flats = 1 ∧
    (rollDamage r true (ScriptedDice.ofList [8, 7, 4, 3, 6, 5, 4, 3])).1.rolls.flatMap
      RollResult.drawn = [[8, 7], [4, 3], [6, 5, 4, 3]] := by
  intro flail fighter blessing selected r
  have hbound : ((flatBonuses selected).map fun v => v.toInt.natAbs).sum ≤ maxFlat := by
    decide +kernel
  have hformula : r.formula = "1d8 +3 - - 1d4 + 2d6 + - 2" := by decide +kernel
  have hshown : (Formula.parse r.formula).dice = [⟨1, 8, .plus⟩, ⟨1, 4, .minus⟩, ⟨2, 6, .plus⟩] ∧
      exactSum (Formula.parse r.formula).flats = 1 := by
    rw [hformula]
    decide +kernel
  obtain ⟨hdice, hflats, hrolled⟩ := damage_formula_rolled flail fighter selected hbound
  have hdrawn := congrArg Prod.fst
    (hrolled ScriptedDice true (.ofList [8, 7, 4, 3, 6, 5, 4, 3])).1
  rw [hshown.1] at hdrawn
  refine ⟨hbound, hformula, hdice.symm.trans hshown.1, hflats.symm.trans hshown.2, ?_⟩
  refine hdrawn.trans ?_
  decide +kernel

end Tabletop.Play
