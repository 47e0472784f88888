import Mathlib.Tactic.Lemma
import Tabletop.Play.Session

/-!
# When operations are accepted, and what they leave

One lemma for each operation that can be refused.  It says exactly when the operation is accepted
and gives the character after it, so that no later proof opens the operation or the checks behind
it: `removeAbility_eq_ok_iff`, `useAbility_eq_ok_iff`, `activateAbility_eq_ok_iff`,
`deactivateAbility_eq_ok_iff`, and for attacks `attack_eq_ok`.  What every use preserves, spending the
choice of an attack preserves (`spendChosen_induction`).

A refused operation leaves the session as it was (`step_eq_self`).

Operations write to the combat log and read nothing from it.  `Character.withoutLog` is a sheet as
far as they are concerned: two sheets with the same one differ in their logs at most.
-/

namespace Tabletop.Sheet

/-- The sheet with an empty log. -/
def Character.withoutLog (c : Character) : Character :=
  { c with combatLog := .empty }

end Tabletop.Sheet

namespace Tabletop.Play

open Tabletop.Dice Tabletop.Rules Tabletop.Sheet

/-! ## The checks -/

lemma checkUsable_instant_iff {a : Ability} (h : a.kind = .instant) :
    a.checkUsable = .ok () ↔ a.isOutOfUses = false := by
  unfold Ability.checkUsable
  rw [h]
  cases a.isOutOfUses <;> simp

lemma checkUsable_duration_iff {a : Ability} (h : a.kind = .duration) :
    a.checkUsable = .ok () ↔ a.active = false ∧ a.isOutOfUses = false := by
  unfold Ability.checkUsable
  rw [h]
  cases a.active <;> cases a.isOutOfUses <;> simp

lemma expectKind_eq_ok_iff {a : Ability} {kind : AbilityKind} :
    a.expectKind kind = .ok () ↔ a.kind = kind := by
  unfold Ability.expectKind
  split
  · rename_i h
    simp [h]
  · rename_i h
    simp [h]

variable {c : Character} {id : AbilityId}

lemma findAbility_eq_ok_iff {a : Ability} :
    findAbility c id = .ok a ↔ c.ability? id = some a := by
  unfold findAbility
  cases c.ability? id <;> simp

lemma readyAbility_eq_ok_iff {kind : AbilityKind} {a : Ability} :
    readyAbility c id kind = .ok a ↔
      c.ability? id = some a ∧ a.kind = kind ∧ a.checkUsable = .ok () := by
  unfold readyAbility
  constructor
  · intro h
    -- The three checks in their order; each case of a failed one contradicts `h`.
    simp only [bind, Except.bind, pure, Except.pure] at h
    split at h
    · simp at h
    · rename_i b hb
      split at h
      · simp at h
      · rename_i hkind
        split at h
        · simp at h
        · rename_i husable
          obtain rfl := Except.ok.inj h
          exact ⟨findAbility_eq_ok_iff.1 hb, expectKind_eq_ok_iff.1 hkind, husable⟩
  · rintro ⟨ha, hkind, husable⟩
    simp [bind, Except.bind, pure, Except.pure, findAbility_eq_ok_iff.2 ha,
      expectKind_eq_ok_iff.2 hkind, husable]

lemma activeAbility_eq_ok_iff {a : Ability} :
    activeAbility c id = .ok a ↔
      c.ability? id = some a ∧ a.kind = .duration ∧ a.active = true := by
  unfold activeAbility
  constructor
  · intro h
    simp only [bind, Except.bind, pure, Except.pure] at h
    split at h
    · simp at h
    · rename_i b hb
      split at h
      · simp at h
      · rename_i hkind
        split at h
        · rename_i hactive
          obtain rfl := Except.ok.inj h
          exact ⟨findAbility_eq_ok_iff.1 hb, expectKind_eq_ok_iff.1 hkind, hactive⟩
        · simp [throw, throwThe, MonadExceptOf.throw] at h
  · rintro ⟨ha, hkind, hactive⟩
    simp [bind, Except.bind, pure, Except.pure, findAbility_eq_ok_iff.2 ha,
      expectKind_eq_ok_iff.2 hkind, hactive]

/-! ## Operations on one ability -/

/-- Removing is accepted exactly for abilities on the roster. -/
lemma removeAbility_eq_ok_iff {c' : Character} :
    removeAbility c id = .ok c' ↔
      ∃ a, c.ability? id = some a ∧
        c' = { c.dropEffects id with abilities := c.abilities.filter fun a => a.id != id } := by
  unfold removeAbility findAbility
  cases c.ability? id with
  | none => simp
  | some a => simp [eq_comm]

/-- Using is accepted exactly for instant abilities with a use left. -/
lemma useAbility_eq_ok_iff {stamp : Stamp} {t : Transition} :
    useAbility c id stamp = .ok t ↔
      ∃ a, c.ability? id = some a ∧ a.kind = .instant ∧ a.isOutOfUses = false ∧
        t = record (c.updateAbility id Ability.spendUse) stamp (.abilityUsed a.name [id]) := by
  unfold useAbility
  constructor
  · intro h
    split at h
    · simp at h
    · rename_i a ha
      obtain ⟨hfound, hkind, husable⟩ := readyAbility_eq_ok_iff.1 ha
      exact ⟨a, hfound, hkind, (checkUsable_instant_iff hkind).1 husable, (Except.ok.inj h).symm⟩
  · rintro ⟨a, hfound, hkind, hleft, rfl⟩
    rw [readyAbility_eq_ok_iff.2 ⟨hfound, hkind, (checkUsable_instant_iff hkind).2 hleft⟩]

/-- An instant ability without uses left is refused by name. -/
lemma useAbility_of_spent {a : Ability} {stamp : Stamp} (ha : c.ability? id = some a)
    (hkind : a.kind = .instant) (hspent : a.isOutOfUses = true) :
    useAbility c id stamp = .error (.noUsesLeft a.name) := by
  have husable : a.checkUsable = .error (.noUsesLeft a.name) := by
    rw [Ability.checkUsable, hkind]
    exact if_pos hspent
  have hready : readyAbility c id .instant = .error (.noUsesLeft a.name) := by
    simp [readyAbility, bind, Except.bind, findAbility_eq_ok_iff.2 ha,
      expectKind_eq_ok_iff.2 hkind, husable]
  rw [useAbility, hready]

/-- The character with an ability started and its effect in place. -/
def startedWith (c : Character) (id : AbilityId) (live : ActiveEffect) : Character :=
  { (c.updateAbility id Ability.start).dropEffects id with
    activeEffects := ((c.updateAbility id Ability.start).dropEffects id).activeEffects ++ [live] }

/-- Activating is accepted exactly for inactive lasting abilities with a use left. -/
lemma activateAbility_eq_ok_iff {effect : EffectId} {stamp : Stamp} {t : Transition} :
    activateAbility c id effect stamp = .ok t ↔
      ∃ a, c.ability? id = some a ∧ a.kind = .duration ∧ a.active = false ∧
        a.isOutOfUses = false ∧
        t = record (startedWith c id (ActiveEffect.ofAbility effect a.start)) stamp
          (.abilityActivated a.name (ActiveEffect.ofAbility effect a.start).duration.max [id]) := by
  unfold activateAbility
  constructor
  · intro h
    split at h
    · simp at h
    · rename_i a ha
      obtain ⟨hfound, hkind, husable⟩ := readyAbility_eq_ok_iff.1 ha
      obtain ⟨hidle, hleft⟩ := (checkUsable_duration_iff hkind).1 husable
      exact ⟨a, hfound, hkind, hidle, hleft, (Except.ok.inj h).symm⟩
  · rintro ⟨a, hfound, hkind, hidle, hleft, rfl⟩
    have husable := (checkUsable_duration_iff hkind).2 ⟨hidle, hleft⟩
    rw [readyAbility_eq_ok_iff.2 ⟨hfound, hkind, husable⟩]
    rfl

/-- Deactivating is accepted exactly for active lasting abilities. -/
lemma deactivateAbility_eq_ok_iff {stamp : Stamp} {t : Transition} :
    deactivateAbility c id stamp = .ok t ↔
      ∃ a, c.ability? id = some a ∧ a.kind = .duration ∧ a.active = true ∧
        t = record ((c.updateAbility id Ability.stop).dropEffects id) stamp
          (.abilityDeactivated a.name) := by
  unfold deactivateAbility
  constructor
  · intro h
    split at h
    · simp at h
    · rename_i a ha
      obtain ⟨hfound, hkind, hactive⟩ := activeAbility_eq_ok_iff.1 ha
      exact ⟨a, hfound, hkind, hactive, (Except.ok.inj h).symm⟩
  · rintro ⟨a, hfound, hkind, hactive, rfl⟩
    rw [activeAbility_eq_ok_iff.2 ⟨hfound, hkind, hactive⟩]

/-! ## Attacks -/

variable {σ : Type} [DieSource σ] {s s' : Session}

/-- An attack can be made exactly when the item can attack, every chosen ability is available and
all of them can be spent. -/
lemma prepareAttack_eq_ok_iff {request : AttackRequest} {stamps : Nat → Stamp}
    {prepared : PreparedAttack} :
    prepareAttack c request stamps = .ok prepared ↔
      ∃ item chosen spent, attackItem c request.item = .ok item ∧
        selectChosen c item (applicableEffects item.actionTags c.abilities).available
          request.chosen = .ok chosen ∧
        spendChosen c stamps request.chosen = .ok spent ∧
        prepared =
          ⟨item, (applicableEffects item.actionTags c.abilities).automatic ++ chosen, spent⟩ := by
  unfold prepareAttack
  cases hitem : attackItem c request.item with
  | error e => simp
  | ok item =>
      dsimp only
      cases hchosen : selectChosen c item (applicableEffects item.actionTags c.abilities).available
          request.chosen with
      | error e => simp [hchosen]
      | ok chosen => cases hspent : spendChosen c stamps request.chosen <;> simp [hchosen, eq_comm]

/-- An attack, its roll and its damage put together: what is answered, and the sheet after it. -/
def settle (c : Character) (attack : PreparedAttack) (roll : D20Roll) (targetAc : Int32)
    (damage : Option DamageOutcome) (stamp : Stamp) : AttackOutcome × Character :=
  let account := attackRecord attack roll targetAc damage
  let logged := record attack.spent stamp (.attack account)
  ({ roll := roll
     modifiers := attackModifiers attack.item c attack.selected
     targetAc := targetAc
     hit := account.hit
     critical := account.critical
     effectsApplied := account.effectsApplied
     damage := damage
     entry := logged.entry }, logged.character)

/-- A prepared attack is rolled, and on a hit its damage; then it is written to the log of the sheet
on which the chosen abilities are spent. -/
lemma resolveAttack_eq_ok_iff {prepared : PreparedAttack} {mode : RollMode} {targetAc : Int32}
    {stamp : Stamp} {dice dice' : σ} {result : AttackOutcome × Character} :
    resolveAttack c prepared mode targetAc stamp dice = (.ok result, dice') ↔
      ∃ roll rolled damage,
        rollD20 (attackModifiers prepared.item c prepared.selected).formula mode dice =
          (.ok roll, rolled) ∧
        damageIfHit c prepared roll targetAc rolled = (damage, dice') ∧
        result = settle c prepared roll targetAc damage stamp := by
  constructor
  · intro h
    unfold resolveAttack at h
    dsimp only at h
    split at h
    · simp at h
    · rename_i roll rolled hroll
      obtain ⟨hresult, hdice⟩ := Prod.mk.inj h
      exact ⟨roll, rolled, _, hroll, Prod.ext rfl hdice, (Except.ok.inj hresult).symm⟩
  · rintro ⟨roll, rolled, damage, hroll, hdamage, rfl⟩
    unfold resolveAttack
    simp only [hroll, hdamage]
    rfl

/-- An accepted attack was prepared, rolled and settled. -/
lemma attack_eq_ok_iff {request : AttackRequest} {stamps : Nat → Stamp} {dice dice' : σ}
    {outcome : AttackOutcome} :
    s.attack request stamps dice = (.ok outcome, s', dice') ↔
      ∃ prepared c', prepareAttack s.character request stamps = .ok prepared ∧
        resolveAttack s.character prepared (request.mode.getD s.config.rollMode)
          (request.targetAc.getD s.config.targetAc) (stamps request.chosen.length) dice =
          (.ok (outcome, c'), dice') ∧
        s' = s.withCharacter c' := by
  constructor
  · intro h
    unfold Session.attack at h
    split at h
    · simp at h
    · rename_i prepared hprepared
      split at h
      · simp at h
      · rename_i o c' rolled hresolved
        simp only [Prod.mk.injEq, Except.ok.injEq] at h
        obtain ⟨rfl, rfl, rfl⟩ := h
        exact ⟨prepared, c', hprepared, hresolved, rfl⟩
  · rintro ⟨prepared, c', hprepared, hresolved, rfl⟩
    unfold Session.attack
    simp only [hprepared, hresolved]

/-- An accepted attack spends the chosen abilities and writes one more entry. -/
lemma attack_eq_ok {request : AttackRequest} {stamps : Nat → Stamp} {dice dice' : σ}
    {outcome : AttackOutcome}
    (h : s.attack request stamps dice = (.ok outcome, s', dice')) :
    ∃ spent stamp account, spendChosen s.character stamps request.chosen = .ok spent ∧
      s' = s.withCharacter (record spent stamp (.attack account)).character := by
  obtain ⟨prepared, c', hprepared, hresolved, rfl⟩ := attack_eq_ok_iff.1 h
  obtain ⟨item, chosen, spent, -, -, hspent, rfl⟩ := prepareAttack_eq_ok_iff.1 hprepared
  obtain ⟨roll, rolled, damage, -, -, hsettled⟩ := resolveAttack_eq_ok_iff.1 hresolved
  obtain ⟨-, rfl⟩ := Prod.mk.inj hsettled
  exact ⟨spent, _, _, hspent, rfl⟩

/-- A refused attack leaves the session as it was. -/
lemma attack_eq_error {request : AttackRequest} {stamps : Nat → Stamp} {dice dice' : σ}
    {e : AttackError} (h : s.attack request stamps dice = (.error e, s', dice')) : s' = s := by
  unfold Session.attack at h
  split at h
  · simp only [Prod.mk.injEq] at h
    exact h.2.1.symm
  · split at h
    · simp only [Prod.mk.injEq] at h
      exact h.2.1.symm
    · simp at h

/-- What every use preserves is preserved by spending a choice. -/
lemma spendChosen_induction {P : Character → Prop} {stamps : Nat → Stamp}
    {chosen : List AbilityId} {spent : Character} (h : spendChosen c stamps chosen = .ok spent)
    (hc : P c)
    (huse : ∀ {d id stamp t}, P d → useAbility d id stamp = .ok t → P t.character) : P spent := by
  induction chosen generalizing c stamps with
  | nil =>
      obtain rfl := Except.ok.inj h
      exact hc
  | cons i chosen ih =>
      unfold spendChosen at h
      split at h
      · rename_i t ht
        exact ih h (huse hc ht)
      · simp at h

/-! ## Steps -/

/-- Whether a session accepts an operation. -/
def Session.accepts (s : Session) (fresh : Fresh) (op : Operation σ) : Bool :=
  (s.step fresh op).1.isOk

/-- **Refusals change nothing.**  A rejected operation leaves the session as it was. -/
lemma step_eq_self {fresh : Fresh} {op : Operation σ} (h : s.accepts fresh op = false) :
    (s.step fresh op).2 = s := by
  -- Operations on the sheet alone share one way to take effect, which a refusal does not enter.
  have hcommit : ∀ r, (s.commit r : Except SessionError (Reply σ) × Session).1.isOk = false →
      (s.commit r : Except SessionError (Reply σ) × Session).2 = s := by
    intro r hr
    cases r with
    | error e => rfl
    | ok t => simp [Session.commit, Except.isOk, Except.toBool] at hr
  cases op with
  | useAbility id => exact hcommit _ h
  | activateAbility id => exact hcommit _ h
  | deactivateAbility id => exact hcommit _ h
  | removeAbility id =>
      simp only [Session.accepts, Session.step] at h ⊢
      split
      · rename_i hr
        simp [hr, Except.isOk, Except.toBool] at h
      · rfl
  | attack request dice =>
      simp only [Session.accepts, Session.step] at h ⊢
      split
      · rename_i hr
        simp [hr, Except.isOk, Except.toBool] at h
      · rename_i hr
        exact attack_eq_error hr
  -- The rest is never rejected.
  | _ => simp [Session.accepts, Session.step, Session.commit, Except.isOk, Except.toBool] at h

end Tabletop.Play
