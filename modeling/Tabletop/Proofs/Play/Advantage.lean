import Tabletop.Proofs.Dice.D20
import Tabletop.Proofs.Play.AttackChange

/-!
# Advantage, disadvantage and armor class

Attacks in different modes do not roll the same number of dice, but from the same source they all
roll the same first die.  Disadvantage keeps no more than that die and advantage no less, so a mode
that favors the attacker more keeps at least as much (`keptDie_mono`).

Nothing else in an attack's roll depends on the mode: the formula has no other dice, and the bonus is
the same.  With the kept die therefore rise the total, the hit and the critical hit, and the same
holds for an armor class that is lowered (`attack_monotone`).
-/

namespace Tabletop.Dice

/-- How much a mode favors the roll: advantage more than normal, and disadvantage less. -/
def RollMode.favor : RollMode → Nat
  | .disadvantage => 0
  | .normal => 1
  | .advantage => 2

section Source

variable {σ : Type} [DieSource σ] {mode mode' : RollMode}

/-- What a mode keeps of the twenty-sided dice that it rolls. -/
def keptDie (mode : RollMode) (source : σ) : UInt32 :=
  mode.keep (rollDice mode.diceCount 20 source).1

lemma first_mem_rollDice (mode : RollMode) (source : σ) :
    (DieSource.roll 20 source).1 ∈ (rollDice mode.diceCount 20 source).1 := by
  cases mode <;> exact List.mem_cons_self

lemma first_le_keptDie (h : mode ≠ .disadvantage) (source : σ) :
    (DieSource.roll 20 source).1 ≤ keptDie mode source := by
  have hkept := (keeps_die mode source).2 _ (first_mem_rollDice mode source)
  cases mode with
  | disadvantage => exact absurd rfl h
  | normal => exact hkept
  | advantage => exact hkept

lemma keptDie_le_first (h : mode ≠ .advantage) (source : σ) :
    keptDie mode source ≤ (DieSource.roll 20 source).1 := by
  have hkept := (keeps_die mode source).2 _ (first_mem_rollDice mode source)
  cases mode with
  | disadvantage => exact hkept
  | normal => exact UInt32.le_refl _
  | advantage => exact absurd rfl h

/-- **Favor.**  From the same source, a mode that favors the roll more keeps at least as much. -/
lemma keptDie_mono (h : mode.favor ≤ mode'.favor) (source : σ) :
    keptDie mode source ≤ keptDie mode' source := by
  by_cases hsame : mode = mode'
  · rw [hsame]
    exact UInt32.le_refl _
  · -- The first die lies between the two.
    have hbetween : mode ≠ .advantage ∧ mode' ≠ .disadvantage := by
      cases mode <;> cases mode' <;> simp_all [RollMode.favor]
    exact UInt32.le_trans (keptDie_le_first hbetween.1 source)
      (first_le_keptDie hbetween.2 source)

lemma keptDie_inRange (fair : IsFair σ) (mode : RollMode) (source : σ) :
    1 ≤ keptDie mode source ∧ keptDie mode source ≤ 20 := by
  obtain ⟨hge, hle⟩ := keep_inRange fair mode source
  exact ⟨UInt32.le_iff_toNat_le.2 hge, UInt32.le_iff_toNat_le.2 hle⟩

end Source

end Tabletop.Dice

namespace Tabletop.Play

open Tabletop.Dice Tabletop.Rules Tabletop.Sheet

lemma hits_mono {roll roll' : D20Roll} {targetAc targetAc' : Int32}
    (hcritical : roll.chosen = 20 → roll'.chosen = 20)
    (hfumble : roll'.chosen = 1 → roll.chosen = 1)
    (htotal : roll.total ≤ roll'.total) (hac : targetAc' ≤ targetAc)
    (h : hits roll targetAc = true) : hits roll' targetAc' = true := by
  rw [hits_iff] at h ⊢
  rcases h with htwenty | ⟨hone, hreached⟩
  · exact .inl (hcritical htwenty)
  · exact .inr ⟨fun hone' => hone (hfumble hone'),
      Int32.le_trans hac (Int32.le_trans hreached htotal)⟩

section Runs

variable {σ : Type} [DieSource σ] {s s' : Session} {request request' : AttackRequest}
  {stamps : Nat → Stamp} {m : AttackModifiers} {dice dice' : σ} {outcome outcome' : AttackOutcome}

lemma AttackRolled.chosen_eq (h : AttackRolled s request m dice outcome) :
    outcome.roll.chosen = keptDie outcome.roll.mode dice := by
  rw [h.kept, h.rolls, keptDie]

/-- With the same bonus and the same dice, a mode that favors the attacker more rolls no worse. -/
lemma AttackRolled.mono (fair : IsFair σ) (one : AttackRolled s request m dice outcome)
    (other : AttackRolled s request' m dice outcome')
    (hfavor : outcome.roll.mode.favor ≤ outcome'.roll.mode.favor) :
    outcome.roll.chosen ≤ outcome'.roll.chosen ∧
      outcome.roll.total ≤ outcome'.roll.total ∧
      (outcome.roll.chosen = 20 → outcome'.roll.chosen = 20) ∧
      (outcome'.roll.chosen = 1 → outcome.roll.chosen = 1) := by
  rw [one.total, other.total, one.chosen_eq, other.chosen_eq]
  have hle := keptDie_mono hfavor dice
  have hleast := (keptDie_inRange fair outcome.roll.mode dice).1
  have hgreatest := (keptDie_inRange fair outcome'.roll.mode dice).2
  -- At most twenty, the kept die is the same number among the signed ones, so that sums compare.
  have hsmall : (keptDie outcome'.roll.mode dice).toNat < 2 ^ 31 :=
    (UInt32.le_iff_toNat_le.1 hgreatest).trans_lt (by decide)
  refine ⟨hle, ?_, fun htwenty => ?_, fun hone => ?_⟩
  · exact satAdd_mono (Int32.le_refl _) (toInt32_mono hle hsmall)
  · exact UInt32.le_antisymm hgreatest (htwenty ▸ hle)
  · exact UInt32.le_antisymm (hone ▸ hle) hleast

/-- **More favor, lower armor class.**  An attack that is made can be made as well in any other mode
and against any other armor class.  On the same session, with the same fair dice, a mode that favors
the attacker at least as much keeps at least as much of the die and has at least the same total.  It
is critical where the other is, and keeps a one only where the other does; and if the armor class is
not higher, it hits where the other does. -/
theorem attack_monotone (fair : IsFair σ)
    (h : s.attack request stamps dice = (.ok outcome, s', dice'))
    (mode : Option RollMode) (targetAc : Option Int32) (stamps' : Nat → Stamp) :
    ∃ outcome' t rest,
      s.attack { request with mode := mode, targetAc := targetAc } stamps' dice =
        (.ok outcome', t, rest) ∧
      (outcome.roll.mode = request.mode.getD s.config.rollMode ∧
        outcome'.roll.mode = mode.getD s.config.rollMode) ∧
      (outcome.targetAc = request.targetAc.getD s.config.targetAc ∧
        outcome'.targetAc = targetAc.getD s.config.targetAc) ∧
      (outcome.roll.mode.favor ≤ outcome'.roll.mode.favor →
        outcome.roll.chosen ≤ outcome'.roll.chosen ∧
        outcome.roll.total ≤ outcome'.roll.total ∧
        (outcome.critical = true → outcome'.critical = true) ∧
        (outcome'.roll.chosen = 1 → outcome.roll.chosen = 1) ∧
        (outcome'.targetAc ≤ outcome.targetAc → outcome.hit = true → outcome'.hit = true)) := by
  obtain ⟨attack, c', hprepared, -⟩ := attack_eq_ok_iff.1 h
  -- Neither the mode nor the armor class has a say in whether an attack can be made.
  obtain ⟨attack', hrestamped, hitem, hselected⟩ :=
    exists_prepareAttack_of_restamped stamps' hprepared
  have hprepared' : prepareAttack s.character { request with mode := mode, targetAc := targetAc }
      stamps' = .ok attack' := hrestamped
  obtain ⟨outcome', t, rest, hother⟩ := exists_attack_of_prepared hprepared' dice
  have one := attackRolled hprepared h
  have other := attackRolled hprepared' hother
  rw [hitem, hselected] at other
  refine ⟨outcome', t, rest, hother, ⟨one.mode, other.mode⟩, ⟨one.targetAc, other.targetAc⟩,
    fun hfavor => ?_⟩
  obtain ⟨hle, htotal, hcritical, hfumble⟩ := one.mono fair other hfavor
  refine ⟨hle, htotal, ?_, hfumble, fun hac hhit => ?_⟩
  · rw [one.critical, other.critical, D20Roll.isCritical, D20Roll.isCritical, beq_iff_eq, beq_iff_eq]
    exact hcritical
  · rw [one.hit] at hhit
    rw [other.hit]
    exact hits_mono hcritical hfumble htotal hac hhit

end Runs

/-- A paladin's longsword hits an armor class of fourteen with disadvantage, where the lower die shows
a twelve; with advantage it hits one of twelve. -/
theorem attack_monotone_longsword :
    let s := paladinSession
    let request : AttackRequest := ⟨numbered 200, [], some .disadvantage, some 14⟩
    let dice := ScriptedDice.ofList [12, 17, 5]
    IsFair ScriptedDice ∧
    ∃ outcome outcome' s' t rest rest',
      (s.attack request (Fresh.numbered 1).stamps dice = (.ok outcome, s', rest) ∧
        outcome.roll.mode.favor = 0 ∧ outcome.roll.total = 14 ∧ outcome.hit = true) ∧
      s.attack { request with mode := some .advantage, targetAc := some 12 }
        (Fresh.numbered 11).stamps dice = (.ok outcome', t, rest') ∧
      outcome'.roll.mode.favor = 2 ∧ outcome.roll.total ≤ outcome'.roll.total ∧
      outcome'.hit = true := by
  intro s request dice
  have hrolled : (s.attack request (Fresh.numbered 1).stamps dice).1.toOption.map
      (fun o => (o.roll.total, o.hit)) = some (14, true) := by
    decide +kernel
  generalize hone : s.attack request (Fresh.numbered 1).stamps dice = one at hrolled ⊢
  obtain ⟨answer, s', rest⟩ := one
  obtain ⟨outcome, rfl, htold⟩ := exists_of_map_toOption hrolled
  obtain ⟨hfourteen, hhit⟩ := Prod.mk.inj htold
  obtain ⟨outcome', t, rest', hother, ⟨hmode, hmode'⟩, ⟨hac, hac'⟩, hcompare⟩ :=
    attack_monotone isFair_scriptedDice hone (some .advantage) (some 12)
      (Fresh.numbered 11).stamps
  have hfavor : outcome.roll.mode.favor = 0 := congrArg RollMode.favor hmode
  have hfavor' : outcome'.roll.mode.favor = 2 := congrArg RollMode.favor hmode'
  obtain ⟨-, htotal, -, -, hkeeps⟩ := hcompare (by omega)
  have hlower : outcome'.targetAc ≤ outcome.targetAc := by
    rw [hac, hac']
    decide
  exact ⟨isFair_scriptedDice, outcome, outcome', s', t, rest, rest',
    ⟨rfl, hfavor, hfourteen, hhit⟩, hother, hfavor', htotal, hkeeps hlower hhit⟩

end Tabletop.Play
