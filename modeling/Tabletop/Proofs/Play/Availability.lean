import Tabletop.Proofs.Play.Refusal

/-!
# Choosing an ability and using it

Whether an instant ability can still be used is decided twice: when it is used by itself, and when it
is offered for an attack.  The first asks that its uses are not all spent, the second that it has a
use left.

For abilities with limited uses that is the same, so such an ability is accepted with an attack that
it applies to exactly if it could be used by itself.  An ability without a limit has no uses that
could be spent, and no use left either: it can always be used, and it is never offered
(`chosen_instant`).
-/

namespace Tabletop.Sheet

open Tabletop.Play Tabletop.Rules

/-- With distinct identifiers, an ability is offered exactly if it is triggered and available. -/
lemma Character.mem_offered_iff {c : Character} {item : Item} {a : Ability} (hc : c.Distinct)
    (ha : a ∈ c.abilities) :
    a.id ∈ c.offered item ↔
      isTriggered item.actionTags a = true ∧ isAvailable a = true := by
  constructor
  · intro h
    obtain ⟨b, hb, hid⟩ := List.mem_map.1 h
    obtain ⟨hb, havailable⟩ := List.mem_filter.1 hb
    obtain ⟨hb, htriggered⟩ := List.mem_filter.1 hb
    have hfound := slot_of_mem hc hb
    rw [hid, slot_of_mem hc ha] at hfound
    obtain rfl := Option.some.inj hfound
    exact ⟨htriggered, havailable⟩
  · rintro ⟨htriggered, havailable⟩
    exact List.mem_map_of_mem (List.mem_filter.2 ⟨List.mem_filter.2 ⟨ha, htriggered⟩, havailable⟩)

end Tabletop.Sheet

namespace Tabletop.Play

open Tabletop.Dice Tabletop.Rules Tabletop.Sheet

variable {σ : Type} [DieSource σ] {s : Session} {item : Item} {itemId : ItemId} {a : Ability}

/-- An instant ability on the roster can be used as long as it is not out of uses. -/
lemma exists_useAbility_iff {c : Character} (hc : c.Distinct) (ha : a ∈ c.abilities)
    (hkind : a.kind = .instant) (stamp : Stamp) :
    (∃ t, useAbility c a.id stamp = .ok t) ↔ a.isOutOfUses = false := by
  have hfound : c.ability? a.id = some a := Character.slot_of_mem hc ha
  constructor
  · rintro ⟨t, ht⟩
    obtain ⟨b, hb, -, hleft, -⟩ := useAbility_eq_ok_iff.1 ht
    obtain rfl : a = b := Option.some.inj (hfound.symm.trans hb)
    exact hleft
  · intro hleft
    exact ⟨_, useAbility_eq_ok_iff.2 ⟨a, hfound, hkind, hleft, rfl⟩⟩

section OneChosen

variable (hs : s.character.Distinct) (hitem : s.character.item? itemId = some item)
  (hattack : item.canAttack = true) (ha : a ∈ s.character.abilities) (mode : Option RollMode)
  (targetAc : Option Int32) (stamps : Nat → Stamp) (dice : σ)

include hs hitem hattack ha

lemma attack_of_not_offered (h : a.id ∉ s.character.offered item) :
    (s.attack ⟨itemId, [a.id], mode, targetAc⟩ stamps dice).1 =
      .error (.notApplicable a.name item.name) := by
  have hchosen : (⟨itemId, [a.id], mode, targetAc⟩ : AttackRequest).chosen = [] ++ a.id :: [] := rfl
  rw [attack_eq_error_iff, prepareAttack_of_not_offered stamps hitem hattack hchosen nofun h,
    notOffered_of_mem hs ha]

/-- An attack with one chosen ability is made exactly if the ability is offered. -/
lemma exists_attack_iff_offered :
    (∃ outcome, (s.attack ⟨itemId, [a.id], mode, targetAc⟩ stamps dice).1 = .ok outcome) ↔
      a.id ∈ s.character.offered item := by
  constructor
  · rintro ⟨outcome, houtcome⟩
    by_contra h
    rw [attack_of_not_offered hs hitem hattack ha mode targetAc stamps dice h] at houtcome
    cases houtcome
  · intro h
    have hoffered : ∀ id ∈ [a.id], id ∈ s.character.offered item := by simpa using h
    refine exists_attack_iff.2 (exists_prepareAttack stamps hitem hattack hs hoffered ?_)
    -- What is offered has a use left, and one is all that is asked for.
    obtain ⟨-, havailable⟩ := (Character.mem_offered_iff hs ha).1 h
    obtain ⟨-, hlimited, hleft⟩ := isAvailable_iff.1 havailable
    obtain ⟨u, hu⟩ := Option.isSome_iff_exists.1 hlimited
    have huses := Character.usesLeft_of_found (Character.slot_of_mem hs ha) hu
    rw [← Bool.not_eq_true, Ability.isOutOfUses_iff hu] at hleft
    simp only [Character.Overdrawn, List.mem_singleton, exists_eq_left, List.count_singleton_self,
      huses]
    omega

end OneChosen

/-- **Choosing an instant ability and using it.**  Take an item that can attack, and an instant
ability on the roster that has an effect and is triggered by the item.  If its uses are limited, an
attack with the ability chosen is made exactly if the ability could be used in the same state.  If
they are not, it can be used, and an attack with it chosen is refused as not applicable. -/
theorem chosen_instant (hs : s.character.Distinct) (hitem : s.character.item? itemId = some item)
    (haction : ∃ action ∈ item.action, action.kind = .attack) (ha : a ∈ s.character.abilities)
    (hkind : a.kind = .instant) (heffect : a.effect.isSome = true)
    (htrigger : matchesAnyTrigger item.actionTags a.trigger = true) (mode : Option RollMode)
    (targetAc : Option Int32) (stamps : Nat → Stamp) (stamp : Stamp) (dice : σ) :
    let answer := (s.attack ⟨itemId, [a.id], mode, targetAc⟩ stamps dice).1
    let used := useAbility s.character a.id stamp
    (a.uses.isSome = true → ((∃ outcome, answer = .ok outcome) ↔ ∃ t, used = .ok t)) ∧
    (a.uses = none →
      (∃ t, used = .ok t) ∧ answer = .error (.notApplicable a.name item.name)) := by
  intro answer used
  have hattack : item.canAttack = true := Item.canAttack_iff.2 haction
  have htriggered : isTriggered item.actionTags a = true := by
    rw [isTriggered, heffect, htrigger]
    rfl
  refine ⟨fun hlimited => ?_, fun hunlimited => ⟨?_, ?_⟩⟩
  · rw [exists_attack_iff_offered hs hitem hattack ha, exists_useAbility_iff hs ha hkind,
      Character.mem_offered_iff hs ha, isAvailable_iff]
    simp only [htriggered, hkind, hlimited, true_and]
  · rw [exists_useAbility_iff hs ha hkind, Ability.isOutOfUses, hunlimited]
  · refine attack_of_not_offered hs hitem hattack ha mode targetAc stamps dice fun h => ?_
    obtain ⟨-, havailable⟩ := (Character.mem_offered_iff hs ha).1 h
    obtain ⟨-, hlimited, -⟩ := isAvailable_iff.1 havailable
    rw [hunlimited] at hlimited
    exact Bool.noConfusion hlimited

/-- An instant ability without a limit that helps in every attack. -/
def cantrip (id : AbilityId) : Ability :=
  { Ability.plain id "Cantrip" .instant with
    trigger := ["attack"]
    effect := some { AbilityEffect.empty with attackBonus := some 1 } }

/-- A fighter's session, who knows a cantrip as `numbered 9`. -/
def cantripSession : Session :=
  let fighter := sampleFighter (numbered 100) "Roland" numbered (numbered 200)
  Session.new (addAbility fighter (numbered 9) (cantrip (numbered 9))) .default

/-- A paladin can use the smite and choose it for an attack; a fighter can only use the cantrip. -/
theorem chosen_instant_smite :
    let sword := longsword (numbered 200)
    let smite := divineSmite (numbered 0)
    let trick := cantrip (numbered 9)
    let stamps := (Fresh.numbered 1).stamps
    let dice := ScriptedDice.ofList [10, 4, 4]
    ((paladinSession.character.Distinct ∧ smite ∈ paladinSession.character.abilities ∧
        paladinSession.character.item? (numbered 200) = some sword) ∧
      (∃ t, useAbility paladinSession.character smite.id (stamps 0) = .ok t) ∧
      ∃ outcome, (paladinSession.attack ⟨numbered 200, [smite.id], none, none⟩ stamps dice).1 =
        .ok outcome) ∧
    ((cantripSession.character.Distinct ∧ trick ∈ cantripSession.character.abilities ∧
        cantripSession.character.item? (numbered 200) = some sword) ∧
      (∃ t, useAbility cantripSession.character trick.id (stamps 0) = .ok t) ∧
      (cantripSession.attack ⟨numbered 200, [trick.id], none, none⟩ stamps dice).1 =
        .error (.notApplicable "Cantrip" "Longsword")) := by
  intro sword smite trick stamps dice
  have haction : ∃ action ∈ sword.action, action.kind = .attack :=
    Item.canAttack_iff.1 (by decide)
  have hpaladin : paladinSession.character.Distinct := by decide +kernel
  have hsmite : smite ∈ paladinSession.character.abilities := by decide +kernel
  have hsword : paladinSession.character.item? (numbered 200) = some sword := by decide +kernel
  have htrigger : matchesAnyTrigger sword.actionTags smite.trigger = true := by decide +kernel
  have hused : ∃ t, useAbility paladinSession.character smite.id (stamps 0) = .ok t :=
    (exists_useAbility_iff hpaladin hsmite rfl _).2 (by decide)
  have hfighter : cantripSession.character.Distinct := by decide +kernel
  have htrick : trick ∈ cantripSession.character.abilities := by decide +kernel
  have hsword' : cantripSession.character.item? (numbered 200) = some sword := by decide +kernel
  have htrigger' : matchesAnyTrigger sword.actionTags trick.trigger = true := by decide +kernel
  obtain ⟨hlimited, -⟩ := chosen_instant hpaladin hsword haction hsmite rfl rfl htrigger none none
    stamps (stamps 0) dice
  obtain ⟨-, hunlimited⟩ := chosen_instant hfighter hsword' haction htrick rfl rfl htrigger' none
    none stamps (stamps 0) dice
  exact ⟨⟨⟨hpaladin, hsmite, hsword⟩, hused, (hlimited rfl).2 hused⟩,
    ⟨hfighter, htrick, hsword'⟩, hunlimited rfl⟩

/-- **An ability that can be used but not chosen.**  A fighter's cantrip is instant, has an effect and
is triggered by attacks with a longsword; it can be used, and an attack with it chosen is refused. -/
theorem cantrip_usable_not_chosen :
    let c := cantripSession.character
    let sword := longsword (numbered 200)
    let trick := cantrip (numbered 9)
    let stamps := (Fresh.numbered 1).stamps
    (c.Distinct ∧ c.item? (numbered 200) = some sword ∧
      (∃ action ∈ sword.action, action.kind = .attack) ∧ trick ∈ c.abilities ∧
      trick.kind = .instant ∧ trick.effect.isSome = true ∧
      matchesAnyTrigger sword.actionTags trick.trigger = true) ∧
    ¬ ((∃ outcome, (cantripSession.attack ⟨numbered 200, [trick.id], none, none⟩ stamps
          (ScriptedDice.ofList [10, 4, 4])).1 = .ok outcome) ↔
        ∃ t, useAbility c trick.id (stamps 0) = .ok t) := by
  intro c sword trick stamps
  have hdistinct : c.Distinct := by decide +kernel
  have hsword : c.item? (numbered 200) = some sword := by decide +kernel
  have hattack : sword.canAttack = true := by decide
  have htrick : trick ∈ c.abilities := by decide +kernel
  have htrigger : matchesAnyTrigger sword.actionTags trick.trigger = true := by decide +kernel
  have hnot : trick.id ∉ c.offered sword := by decide +kernel
  refine ⟨⟨hdistinct, hsword, Item.canAttack_iff.1 hattack, htrick, rfl, rfl, htrigger⟩, fun h => ?_⟩
  have hused : ∃ t, useAbility c trick.id (stamps 0) = .ok t :=
    (exists_useAbility_iff hdistinct htrick rfl _).2 rfl
  obtain ⟨outcome, houtcome⟩ := h.2 hused
  rw [attack_of_not_offered hdistinct hsword hattack htrick none none stamps _ hnot] at houtcome
  cases houtcome

end Tabletop.Play
