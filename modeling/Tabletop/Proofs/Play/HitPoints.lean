import Tabletop.Proofs.Play.Life
import Tabletop.Proofs.Sheet.HitPoints

/-!
# Hit points in play

What a session does to the hit points of its character is a sequence of changes: damage, healing and
temporary hit points as they are asked for, and a restoration for every long rest (`hitPoints_run`).
Nothing else in play reads or writes them.

So what holds of every sequence of changes holds of every session, and `hitPoints_laws` states it of
both: hit points stay between zero and an unchanged maximum, temporary ones stay above zero.  It goes
on with the laws of single changes, which are those of `Proofs/Sheet/HitPoints.lean`.
-/

namespace Tabletop.Play

open Tabletop.Dice Tabletop.Sheet

variable {σ : Type}

/-- What an operation does to hit points, if anything. -/
def Operation.hitPointChange? : Operation σ → Option HitPoints.Change
  | .takeDamage amount => some (.damage amount)
  | .heal amount => some (.heal amount)
  | .addTemporary amount => some (.addTemporary amount)
  | .rest .long => some .restore
  | _ => none

/-- What a run does to hit points, in order. -/
def hitPointChanges (ops : List (Fresh × Operation σ)) : List HitPoints.Change :=
  ops.filterMap fun op => op.2.hitPointChange?

lemma hitPoints_spendChosen {c spent : Character} {stamps : Nat → Stamp} {chosen : List AbilityId}
    (h : spendChosen c stamps chosen = .ok spent) : spent.hitPoints = c.hitPoints := by
  refine spendChosen_induction (P := fun d => d.hitPoints = c.hitPoints) h rfl ?_
  intro d id stamp t hd ht
  obtain ⟨a, -, -, -, rfl⟩ := useAbility_eq_ok_iff.1 ht
  exact hd

variable [DieSource σ]

/-- An operation changes the hit points in its own way, or leaves them alone. -/
lemma hitPoints_step (s : Session) (fresh : Fresh) (op : Operation σ) :
    s.character.hitPoints.changes? op.hitPointChange?.toList =
      some (s.step fresh op).2.character.hitPoints := by
  -- A transition that leaves the hit points alone does so whether it is accepted or refused.
  have hcommit : ∀ r : Except UsageError Transition,
      (∀ t, r = .ok t → t.character.hitPoints = s.character.hitPoints) →
      some s.character.hitPoints =
        some (s.commit r : Except SessionError (Reply σ) × Session).2.character.hitPoints := by
    intro r hr
    cases r with
    | error e => rfl
    | ok t => exact congrArg some (hr t rfl).symm
  cases op with
  | removeAbility id =>
      simp only [Session.step]
      split
      · rename_i c' hc'
        obtain ⟨a, -, rfl⟩ := removeAbility_eq_ok_iff.1 hc'
        rfl
      · rfl
  | useAbility id =>
      refine hcommit _ fun t ht => ?_
      obtain ⟨a, -, -, -, rfl⟩ := useAbility_eq_ok_iff.1 ht
      rfl
  | activateAbility id =>
      refine hcommit _ fun t ht => ?_
      obtain ⟨a, -, -, -, -, rfl⟩ := activateAbility_eq_ok_iff.1 ht
      rfl
  | deactivateAbility id =>
      refine hcommit _ fun t ht => ?_
      obtain ⟨a, -, -, -, rfl⟩ := deactivateAbility_eq_ok_iff.1 ht
      rfl
  | rest kind => cases kind <;> rfl
  | attack request dice =>
      simp only [Session.step]
      split
      · rename_i hattack
        obtain ⟨spent, stamp, account, hspent, rfl⟩ := attack_eq_ok hattack
        exact congrArg some (hitPoints_spendChosen hspent).symm
      · rename_i hattack
        rw [attack_eq_error hattack]
        rfl
  | _ => rfl

/-- The hit points after a run are those after its changes. -/
lemma hitPoints_run (s : Session) (ops : List (Fresh × Operation σ)) :
    s.character.hitPoints.changes? (hitPointChanges ops) =
      some (s.run ops).character.hitPoints := by
  induction ops generalizing s with
  | nil => rfl
  | cons op ops ih =>
      have hsplit : hitPointChanges (op :: ops) =
          op.2.hitPointChange?.toList ++ hitPointChanges ops := by
        rw [hitPointChanges, List.filterMap_cons]
        cases op.2.hitPointChange? <;> rfl
      have hstep := hitPoints_step s op.1 op.2
      unfold HitPoints.changes? at hstep ih ⊢
      rw [hsplit, List.foldlM_append, hstep]
      exact ih (s.step op.1 op.2).2

/-- **Hit points.**  Take hit points between zero and the maximum, with temporary ones not below zero.
No sequence of changes leaves these bounds or moves the maximum, and none fails, provided that no
healing overflows; so it is for every run of a session.

Damage is taken off the sum of current and temporary hit points, and from the current ones only once
the temporary ones are gone.  Healing answers with the rise in hit points.  Damage in two parts is
damage at once, and so it is for healing.  Negative amounts change nothing.  Whatever the hit points
are, damage says that none are left exactly when they are down. -/
theorem hitPoints_laws :
    (∀ (hp : HitPoints) (changes : List HitPoints.Change), hp.InBounds → hp.AllFit changes →
      ∃ hp', hp.changes? changes = some hp' ∧ hp'.InBounds ∧ hp'.maximum = hp.maximum) ∧
    (∀ (s : Session) (ops : List (Fresh × Operation σ)), s.character.hitPoints.InBounds →
      s.character.hitPoints.AllFit (hitPointChanges ops) →
        (s.run ops).character.hitPoints.InBounds ∧
        (s.run ops).character.hitPoints.maximum = s.character.hitPoints.maximum) ∧
    (∀ hp : HitPoints, hp.InBounds →
      (∀ a : Int32, 0 ≤ a →
        let hp' := (hp.takeDamage a).1
        let total := hp.current.toInt + hp.temporary.toInt
        hp'.current.toInt + hp'.temporary.toInt = total - min a.toInt total ∧
        (hp'.current ≠ hp.current → hp'.temporary = 0)) ∧
      (∀ a b : Int32, 0 ≤ a → 0 ≤ b → FitsInt32 (a.toInt + b.toInt) →
        ((hp.takeDamage a).1.takeDamage b).1 = (hp.takeDamage (a + b)).1) ∧
      (∀ a : Int32, FitsInt32 (hp.current.toInt + max a.toInt 0) →
        (hp.heal a).2.toInt = (hp.heal a).1.current.toInt - hp.current.toInt ∧
        0 ≤ (hp.heal a).2) ∧
      (∀ a b : Int32, 0 ≤ a → 0 ≤ b → FitsInt32 (hp.current.toInt + a.toInt + b.toInt) →
        ((hp.heal a).1.heal b).1 = (hp.heal (a + b)).1 ∧
        (hp.heal a).2.toInt + ((hp.heal a).1.heal b).2.toInt = (hp.heal (a + b)).2.toInt) ∧
      ∀ a : Int32, a < 0 →
        (hp.takeDamage a).1 = hp ∧ hp.heal a = (hp, 0) ∧ hp.addTemporary a = hp) ∧
    ∀ (hp : HitPoints) (a : Int32),
      (hp.takeDamage a).2.droppedToZero = (hp.takeDamage a).1.isDown := by
  refine ⟨fun hp changes h hfits => HitPoints.inBounds_changes h hfits, ?_, ?_,
    HitPoints.droppedToZero_takeDamage⟩
  -- A run has changed the hit points by the changes of its operations, one after the other.
  · intro s ops h hfits
    obtain ⟨hp', hchanges, hbounds, hmaximum⟩ := HitPoints.inBounds_changes h hfits
    obtain rfl := Option.some.inj (hchanges.symm.trans (hitPoints_run s ops))
    exact ⟨hbounds, hmaximum⟩
  · intro hp h
    refine ⟨fun a ha => ?_, fun a b ha hb hsum => ?_, fun a hfits => ?_, fun a b ha hb hsum => ?_,
      fun a ha => ?_⟩
    · exact ⟨HitPoints.total_takeDamage h (Int32.le_iff_toInt_le.1 ha),
        HitPoints.temporary_takeDamage_of_ne h⟩
    · exact HitPoints.takeDamage_takeDamage h (Int32.le_iff_toInt_le.1 ha)
        (Int32.le_iff_toInt_le.1 hb) hsum
    · exact ⟨HitPoints.toInt_healed hfits h, HitPoints.healed_nonneg hfits h⟩
    · exact HitPoints.heal_heal h (Int32.le_iff_toInt_le.1 ha) (Int32.le_iff_toInt_le.1 hb) hsum
    · exact HitPoints.change_of_neg h (Int32.lt_iff_toInt_lt.1 ha)

/-- A fighter with 12 hit points who is hurt twice, healed too much, and rests. -/
theorem hitPoints_laws_fighter :
    let hp : HitPoints := ⟨7, 12, 5⟩
    let changes : List HitPoints.Change :=
      [.damage 8, .heal 100, .addTemporary 3, .setCurrent 40, .damage (-4), .damage 20, .restore]
    let s := Session.new (sampleFighter (numbered 100) "Roland" numbered (numbered 200)) .default
    let ops : List (Fresh × Operation ScriptedDice) :=
      [(.numbered 1, .addTemporary 5), (.numbered 2, .takeDamage 9), (.numbered 3, .heal 30),
        (.numbered 4, .rest .long)]
    (hp.InBounds ∧ hp.AllFit changes ∧
      ∃ hp', hp.changes? changes = some hp' ∧ hp'.InBounds ∧ hp'.maximum = 12) ∧
    (s.character.hitPoints.InBounds ∧ s.character.hitPoints.AllFit (hitPointChanges ops) ∧
      (s.run ops).character.hitPoints.InBounds) ∧
    ((hp.takeDamage 8).1.takeDamage 3).1 = (hp.takeDamage 11).1 ∧
    ((hp.heal 2).1.heal 9).1 = (hp.heal 11).1 ∧ hp.heal (-3) = (hp, 0) := by
  intro hp changes s ops
  obtain ⟨hchanges, hruns, hlaws, -⟩ := hitPoints_laws (σ := ScriptedDice)
  have hp_inBounds : hp.InBounds := by decide
  have hfits : hp.AllFit changes := by decide
  have hs : s.character.hitPoints.InBounds := by decide
  have hops : s.character.hitPoints.AllFit (hitPointChanges ops) := by decide
  obtain ⟨-, hdamage, -, hheal, hneg⟩ := hlaws hp hp_inBounds
  exact ⟨⟨hp_inBounds, hfits, hchanges hp changes hp_inBounds hfits⟩,
    ⟨hs, hops, (hruns s ops hs hops).1⟩, hdamage 8 3 (by decide) (by decide) (by decide),
    (hheal 2 9 (by decide) (by decide) (by decide)).1, (hneg (-3) (by decide)).2.1⟩

end Tabletop.Play
