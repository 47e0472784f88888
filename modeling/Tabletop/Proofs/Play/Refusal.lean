import Tabletop.Proofs.Play.AttackRoll

/-!
# Which attacks are refused, and why

An attack passes four checks, one after the other: the item exists, it can attack, every chosen
ability is offered for the attack, and the chosen abilities have the uses that are asked of them.
The first check that fails gives the reason; an attack that passes all of them is made
(`attack_verdict`).

The last check is made by spending: the chosen abilities are spent one by one on a copy of the sheet,
until one of them has no use left.  `Character.Overdrawn` is the condition that this amounts to, that
some ability is chosen more often than it has uses left; `spendChosen_verdict` proves it by induction
on the choice, since a use that is spent is taken from what is asked for and from what is left
(`usesLeft_lt_count_cons`).
-/

namespace Tabletop.Sheet

open Tabletop.Play Tabletop.Rules

lemma Item.canAttack_iff {item : Item} :
    item.canAttack = true ↔ ∃ action ∈ item.action, action.kind = .attack := by
  unfold canAttack
  cases item.action <;> simp

/-- Being available asks for limited uses on top of what using asks for. -/
lemma isAvailable_iff {a : Ability} :
    isAvailable a = true ↔ a.kind = .instant ∧ a.uses.isSome = true ∧ a.isOutOfUses = false := by
  unfold isAvailable Ability.isOutOfUses
  cases a.uses <;> simp

namespace Character

variable {c c' : Character} {id : AbilityId} {item : Item}

/-- The abilities that a player may choose for an attack with an item. -/
def offered (c : Character) (item : Item) : List AbilityId :=
  (applicableEffects item.actionTags c.abilities).available.map Ability.id

/-- The uses left of an ability with limited uses. -/
def usesLeft (c : Character) (id : AbilityId) : Nat :=
  match (c.ability? id).bind Ability.uses with
  | some u => u.current.toNat
  | none => 0

/-- Whether some ability is chosen more often than it has uses left. -/
def Overdrawn (c : Character) (chosen : List AbilityId) : Prop :=
  ∃ id ∈ chosen, c.usesLeft id < chosen.count id

instance (c : Character) (chosen : List AbilityId) : Decidable (c.Overdrawn chosen) :=
  inferInstanceAs (Decidable (∃ id ∈ chosen, c.usesLeft id < chosen.count id))

/-- Whether an identifier is that of an instant ability with limited uses. -/
def Spendable (c : Character) (id : AbilityId) : Prop :=
  ∃ a u, c.ability? id = some a ∧ a.kind = .instant ∧ a.uses = some u

lemma usesLeft_of_found {a : Ability} {u : Pool} (ha : c.ability? id = some a)
    (hu : a.uses = some u) : c.usesLeft id = u.current.toNat := by
  simp [usesLeft, ha, hu]

/-- With distinct identifiers, what is offered can be spent. -/
lemma spendable_of_offered (hc : c.Distinct) (h : id ∈ c.offered item) : c.Spendable id := by
  obtain ⟨a, ha, rfl⟩ := List.mem_map.1 h
  obtain ⟨ha, havailable⟩ := List.mem_filter.1 ha
  obtain ⟨hkind, hlimited, -⟩ := isAvailable_iff.1 havailable
  obtain ⟨u, hu⟩ := Option.isSome_iff_exists.1 hlimited
  exact ⟨a, u, slot_of_mem hc (List.mem_of_mem_filter ha), hkind, hu⟩

/-- What is chosen more often than it has uses left is chosen. -/
lemma overdrawn_iff {chosen : List AbilityId} :
    c.Overdrawn chosen ↔ ∃ id, c.usesLeft id < chosen.count id := by
  constructor
  · rintro ⟨id, -, hlt⟩
    exact ⟨id, hlt⟩
  · rintro ⟨id, hlt⟩
    exact ⟨id, List.count_pos_iff.1 (by omega), hlt⟩

/-- Spending a use that is left takes one from what is asked for and one from what is left. -/
lemma usesLeft_lt_count_cons {chosen : List AbilityId} (hleft : 0 < c.usesLeft id)
    (h : ∀ i, c'.usesLeft i = if i = id then c.usesLeft i - 1 else c.usesLeft i) (i : AbilityId) :
    c.usesLeft i < (id :: chosen).count i ↔ c'.usesLeft i < chosen.count i := by
  have hafter := h i
  by_cases hid : i = id
  · subst hid
    rw [if_pos rfl] at hafter
    rw [List.count_cons_self]
    omega
  · rw [if_neg hid] at hafter
    rw [List.count_cons_of_ne (Ne.symm hid)]
    omega

end Character

end Tabletop.Sheet

namespace Tabletop.Play

open Tabletop.Dice Tabletop.Rules Tabletop.Sheet

variable {c : Character} {id : AbilityId} {item : Item}

/-! ## One use -/

/-- What using an ability leaves of the sheet `c`, as far as further uses are concerned: one use of
the ability is gone, and nothing else. -/
structure UsedOnce (c : Character) (id : AbilityId) (c' : Character) : Prop where
  usesLeft : ∀ i, c'.usesLeft i = if i = id then c.usesLeft i - 1 else c.usesLeft i
  spendable : ∀ i, c.Spendable i → c'.Spendable i
  name : ∀ i b, c'.ability? i = some b → ∃ a, c.ability? i = some a ∧ a.name = b.name

lemma usedOnce_spendUse (stamp : Stamp) (event : LogEvent) :
    UsedOnce c id (record (c.updateAbility id Ability.spendUse) stamp event).character := by
  -- Only the ability that is used is another one afterwards; all three parts read the sheet through
  -- this.
  have hlookup : ∀ i,
      (record (c.updateAbility id Ability.spendUse) stamp event).character.ability? i =
        if i = id then (c.ability? i).map Ability.spendUse else c.ability? i :=
    fun i => Character.find?_updateFirst id i Ability.spendUse_id c.abilities
  constructor
  · intro i
    rw [Character.usesLeft, Character.usesLeft, hlookup]
    by_cases hi : i = id
    · rw [if_pos hi, if_pos hi]
      cases c.ability? i with
      | none => rfl
      | some a =>
          rw [Option.map_some, Option.bind_some, Option.bind_some, Ability.spendUse]
          cases a.uses with
          | none => rfl
          | some u => exact Pool.toNat_current_spend u
    · rw [if_neg hi, if_neg hi]
  · rintro i ⟨a, u, ha, hkind, hu⟩
    have hfound := hlookup i
    rw [ha] at hfound
    by_cases hi : i = id
    · rw [if_pos hi] at hfound
      exact ⟨a.spendUse, u.spend, hfound, hkind, congrArg (Option.map Pool.spend) hu⟩
    · rw [if_neg hi] at hfound
      exact ⟨a, u, hfound, hkind, hu⟩
  · intro i b hb
    rw [hlookup] at hb
    by_cases hi : i = id
    · rw [if_pos hi] at hb
      obtain ⟨a, ha, rfl⟩ := Option.map_eq_some_iff.1 hb
      exact ⟨a, ha, rfl⟩
    · rw [if_neg hi] at hb
      exact ⟨b, hb, rfl⟩

lemma exists_useAbility (h : c.Spendable id) (hleft : 0 < c.usesLeft id) (stamp : Stamp) :
    ∃ t, useAbility c id stamp = .ok t ∧ UsedOnce c id t.character := by
  obtain ⟨a, u, ha, hkind, hu⟩ := h
  rw [Character.usesLeft_of_found ha hu] at hleft
  have hout : a.isOutOfUses = false := by
    rw [← Bool.not_eq_true, Ability.isOutOfUses_iff hu]
    omega
  exact ⟨_, useAbility_eq_ok_iff.2 ⟨a, ha, hkind, hout, rfl⟩, usedOnce_spendUse stamp _⟩

lemma useAbility_of_none_left (h : c.Spendable id) (hleft : c.usesLeft id = 0) (stamp : Stamp) :
    ∃ a, c.ability? id = some a ∧ useAbility c id stamp = .error (.noUsesLeft a.name) := by
  obtain ⟨a, u, ha, hkind, hu⟩ := h
  rw [Character.usesLeft_of_found ha hu] at hleft
  exact ⟨a, ha, useAbility_of_spent ha hkind ((Ability.isOutOfUses_iff hu).2 hleft)⟩

/-! ## Spending the choice -/

/-- Spending a choice fails exactly if some ability is chosen more often than it has uses left, and
then the refusal has the name of one that is. -/
lemma spendChosen_verdict (stamps : Nat → Stamp) {chosen : List AbilityId}
    (h : ∀ id ∈ chosen, c.Spendable id) :
    (c.Overdrawn chosen → ∃ id a, c.ability? id = some a ∧ c.usesLeft id < chosen.count id ∧
      spendChosen c stamps chosen = .error (.noUsesLeft a.name)) ∧
    (¬ c.Overdrawn chosen → ∃ spent, spendChosen c stamps chosen = .ok spent) := by
  induction chosen generalizing c stamps with
  | nil => exact ⟨by simp [Character.Overdrawn], fun _ => ⟨c, rfl⟩⟩
  | cons id chosen ih =>
      obtain ⟨hid, hrest⟩ := List.forall_mem_cons.1 h
      rcases Nat.eq_zero_or_pos (c.usesLeft id) with hnone | hleft
      · obtain ⟨a, ha, hrefused⟩ := useAbility_of_none_left hid hnone (stamps 0)
        have hlt : c.usesLeft id < (id :: chosen).count id := by
          rw [hnone, List.count_cons_self]
          exact Nat.succ_pos _
        refine ⟨fun _ => ⟨id, a, ha, hlt, ?_⟩,
          fun hnot => absurd ⟨id, List.mem_cons_self, hlt⟩ hnot⟩
        rw [spendChosen, hrefused]
      · obtain ⟨t, ht, hused⟩ := exists_useAbility hid hleft (stamps 0)
        have hspend : spendChosen c stamps (id :: chosen) =
            spendChosen t.character (fun n => stamps (n + 1)) chosen := by
          rw [spendChosen, ht]
        -- The use that is spent is one less to ask for and one less to have, so who is overdrawn stays
        -- the same for the rest of the choice.
        have hsame : ∀ i, c.usesLeft i < (id :: chosen).count i ↔
            t.character.usesLeft i < chosen.count i :=
          Character.usesLeft_lt_count_cons hleft hused.usesLeft
        have hcons : c.Overdrawn (id :: chosen) ↔ t.character.Overdrawn chosen := by
          rw [Character.overdrawn_iff, Character.overdrawn_iff]
          exact exists_congr hsame
        have hspendable : ∀ i ∈ chosen, t.character.Spendable i :=
          fun i hi => hused.spendable i (hrest i hi)
        obtain ⟨hover, hnot⟩ := ih (fun n => stamps (n + 1)) hspendable
        rw [hspend, hcons]
        refine ⟨fun h => ?_, hnot⟩
        obtain ⟨i, b, hb, hlt, hrefused⟩ := hover h
        obtain ⟨a, ha, hname⟩ := hused.name i b hb
        exact ⟨i, a, ha, (hsame i).2 hlt, hname ▸ hrefused⟩

/-! ## Looking the choice up -/

lemma find?_isSome_of_mem {available : List Ability} (h : id ∈ available.map Ability.id) :
    ∃ a, available.find? (fun a => a.id == id) = some a := by
  obtain ⟨a, ha, rfl⟩ := List.mem_map.1 h
  exact Option.isSome_iff_exists.1 (List.find?_isSome.2 ⟨a, ha, by simp⟩)

lemma exists_selectChosen (c : Character) (item : Item) {available : List Ability} {chosen : List AbilityId}
    (h : ∀ id ∈ chosen, id ∈ available.map Ability.id) :
    ∃ selected, selectChosen c item available chosen = .ok selected := by
  induction chosen with
  | nil => exact ⟨[], rfl⟩
  | cons id chosen ih =>
      obtain ⟨hid, hrest⟩ := List.forall_mem_cons.1 h
      obtain ⟨a, ha⟩ := find?_isSome_of_mem hid
      obtain ⟨selected, hselected⟩ := ih hrest
      exact ⟨a :: selected, by simp only [selectChosen, ha, hselected]⟩

/-- The reason against choosing an ability that is not offered. -/
def notOffered (c : Character) (item : Item) (id : AbilityId) : AttackError :=
  match c.ability? id with
  | some a => .notApplicable a.name item.name
  | none => .usage (.abilityNotFound id)

lemma notOffered_of_missing (h : ∀ a ∈ c.abilities, a.id ≠ id) :
    notOffered c item id = .usage (.abilityNotFound id) := by
  have hnone : c.ability? id = none :=
    List.find?_eq_none.2 fun a ha heq => h a ha (by simpa using heq)
  rw [notOffered, hnone]

lemma notOffered_of_mem (hc : c.Distinct) {a : Ability} (ha : a ∈ c.abilities) :
    notOffered c item a.id = .notApplicable a.name item.name := by
  have hfound : c.ability? a.id = some a := Character.slot_of_mem hc ha
  rw [notOffered, hfound]

/-- The first chosen ability that is not offered gives the reason. -/
lemma selectChosen_of_not_offered (c : Character) {available : List Ability}
    {front : List AbilityId} (back : List AbilityId)
    (hfront : ∀ i ∈ front, i ∈ available.map Ability.id) (hid : id ∉ available.map Ability.id) :
    selectChosen c item available (front ++ id :: back) = .error (notOffered c item id) := by
  induction front with
  | nil =>
      have hnone : available.find? (fun a => a.id == id) = none := by
        rw [List.find?_eq_none]
        intro a ha heq
        exact hid (List.mem_map.2 ⟨a, ha, by simpa using heq⟩)
      rw [List.nil_append, selectChosen, hnone, notOffered]
      cases c.ability? id <;> rfl
  | cons i front ih =>
      obtain ⟨hi, hrest⟩ := List.forall_mem_cons.1 hfront
      obtain ⟨a, ha⟩ := find?_isSome_of_mem hi
      simp only [List.cons_append, selectChosen, ha, ih hrest]

/-! ## The four checks -/

variable {request : AttackRequest} {stamps : Nat → Stamp}

lemma prepareAttack_of_no_item (h : c.item? request.item = none) :
    prepareAttack c request stamps = .error (.itemNotFound request.item) := by
  simp only [prepareAttack, attackItem, h]

lemma prepareAttack_of_no_attack (h : c.item? request.item = some item)
    (hattack : item.canAttack = false) :
    prepareAttack c request stamps = .error (.noAttack item.name) := by
  simp [prepareAttack, attackItem, h, hattack]

section CanAttack

variable (stamps) (h : c.item? request.item = some item) (hattack : item.canAttack = true)

include h hattack

lemma attackItem_of_canAttack : attackItem c request.item = .ok item := by
  simp [attackItem, h, hattack]

lemma prepareAttack_of_not_offered {front back : List AbilityId}
    (hchosen : request.chosen = front ++ id :: back) (hfront : ∀ i ∈ front, i ∈ c.offered item)
    (hid : id ∉ c.offered item) :
    prepareAttack c request stamps = .error (notOffered c item id) := by
  have hrefused : selectChosen c item (applicableEffects item.actionTags c.abilities).available
      request.chosen = .error (notOffered c item id) := by
    rw [hchosen]
    exact selectChosen_of_not_offered c back hfront hid
  simp only [prepareAttack, attackItem_of_canAttack h hattack, hrefused]

lemma prepareAttack_of_overdrawn (hc : c.Distinct)
    (hoffered : ∀ id ∈ request.chosen, id ∈ c.offered item) (hover : c.Overdrawn request.chosen) :
    ∃ a ∈ c.abilities, c.usesLeft a.id < request.chosen.count a.id ∧
      prepareAttack c request stamps = .error (.usage (.noUsesLeft a.name)) := by
  obtain ⟨selected, hselected⟩ := exists_selectChosen c item hoffered
  have hspendable : ∀ id ∈ request.chosen, c.Spendable id :=
    fun id hid => Character.spendable_of_offered hc (hoffered id hid)
  obtain ⟨id, a, ha, hlt, hrefused⟩ := (spendChosen_verdict stamps hspendable).1 hover
  obtain rfl : a.id = id := by simpa using List.find?_some ha
  refine ⟨a, List.mem_of_find?_eq_some ha, hlt, ?_⟩
  simp only [prepareAttack, attackItem_of_canAttack h hattack, hselected, hrefused]

lemma exists_prepareAttack (hc : c.Distinct)
    (hoffered : ∀ id ∈ request.chosen, id ∈ c.offered item)
    (hover : ¬ c.Overdrawn request.chosen) :
    ∃ prepared, prepareAttack c request stamps = .ok prepared := by
  obtain ⟨selected, hselected⟩ := exists_selectChosen c item hoffered
  have hspendable : ∀ id ∈ request.chosen, c.Spendable id :=
    fun id hid => Character.spendable_of_offered hc (hoffered id hid)
  obtain ⟨spent, hspent⟩ := (spendChosen_verdict stamps hspendable).2 hover
  exact ⟨_, prepareAttack_eq_ok_iff.2
    ⟨item, selected, spent, attackItem_of_canAttack h hattack, hselected, hspent, rfl⟩⟩

end CanAttack

lemma all_or_first (p : AbilityId → Prop) [DecidablePred p] (ids : List AbilityId) :
    (∀ id ∈ ids, p id) ∨
      ∃ front id back, ids = front ++ id :: back ∧ (∀ i ∈ front, p i) ∧ ¬ p id := by
  induction ids with
  | nil => exact .inl nofun
  | cons id ids ih =>
      by_cases hid : p id
      · rcases ih with hall | ⟨front, i, back, rfl, hfront, hi⟩
        · exact .inl (List.forall_mem_cons.2 ⟨hid, hall⟩)
        · exact .inr ⟨id :: front, i, back, rfl, List.forall_mem_cons.2 ⟨hid, hfront⟩, hi⟩
      · exact .inr ⟨[], id, ids, rfl, nofun, hid⟩

/-- What preparing an attack comes to: the first check that fails, or none does. -/
inductive Verdict (c : Character) (request : AttackRequest) :
    Except AttackError PreparedAttack → Prop
  | noItem (h : c.item? request.item = none) :
      Verdict c request (.error (.itemNotFound request.item))
  | noAttack (item : Item) (h : c.item? request.item = some item)
      (hattack : item.canAttack = false) : Verdict c request (.error (.noAttack item.name))
  | missing (item : Item) (h : c.item? request.item = some item) (hattack : item.canAttack = true)
      (id : AbilityId) (hchosen : id ∈ request.chosen) (hid : id ∉ c.offered item) :
      Verdict c request (.error (.usage (.abilityNotFound id)))
  | notApplicable (item : Item) (h : c.item? request.item = some item)
      (hattack : item.canAttack = true) (a : Ability) (hchosen : a.id ∈ request.chosen)
      (hid : a.id ∉ c.offered item) :
      Verdict c request (.error (.notApplicable a.name item.name))
  | overdrawn (item : Item) (h : c.item? request.item = some item)
      (hattack : item.canAttack = true) (hoffered : ∀ id ∈ request.chosen, id ∈ c.offered item)
      (a : Ability) (ha : a ∈ c.abilities) (hover : c.usesLeft a.id < request.chosen.count a.id) :
      Verdict c request (.error (.usage (.noUsesLeft a.name)))
  | prepared (item : Item) (h : c.item? request.item = some item)
      (hattack : item.canAttack = true) (hoffered : ∀ id ∈ request.chosen, id ∈ c.offered item)
      (hover : ¬ c.Overdrawn request.chosen) (attack : PreparedAttack) :
      Verdict c request (.ok attack)

lemma verdict_prepareAttack (hc : c.Distinct) (request : AttackRequest) (stamps : Nat → Stamp) :
    Verdict c request (prepareAttack c request stamps) := by
  -- The checks in the order in which they are made; each failure is one constructor of the verdict.
  cases hitem : c.item? request.item with
  | none =>
      rw [prepareAttack_of_no_item hitem]
      exact .noItem hitem
  | some item =>
      cases hattack : item.canAttack with
      | false =>
          rw [prepareAttack_of_no_attack hitem hattack]
          exact .noAttack item hitem hattack
      | true =>
          rcases all_or_first (· ∈ c.offered item) request.chosen with
            hoffered | ⟨front, id, back, hchosen, hfront, hid⟩
          · by_cases hover : c.Overdrawn request.chosen
            · obtain ⟨a, ha, hlt, hrefused⟩ :=
                prepareAttack_of_overdrawn stamps hitem hattack hc hoffered hover
              rw [hrefused]
              exact .overdrawn item hitem hattack hoffered a ha hlt
            · obtain ⟨attack, hprepared⟩ :=
                exists_prepareAttack stamps hitem hattack hc hoffered hover
              rw [hprepared]
              exact .prepared item hitem hattack hoffered hover attack
          · have hmem : id ∈ request.chosen :=
              hchosen ▸ List.mem_append_right front List.mem_cons_self
            rw [prepareAttack_of_not_offered stamps hitem hattack hchosen hfront hid, notOffered]
            cases hfound : c.ability? id with
            | none => exact .missing item hitem hattack id hmem hid
            | some a =>
                obtain rfl : a.id = id := by simpa using List.find?_some hfound
                exact .notApplicable item hitem hattack a hmem hid

section Reasons

variable (hc : c.Distinct)

include hc

lemma prepareAttack_eq_itemNotFound_iff :
    prepareAttack c request stamps = .error (.itemNotFound request.item) ↔
      c.item? request.item = none := by
  refine ⟨fun h => ?_, prepareAttack_of_no_item⟩
  have hverdict := verdict_prepareAttack hc request stamps
  rw [h] at hverdict
  cases hverdict with
  | noItem hitem => exact hitem

lemma prepareAttack_eq_noAttack_iff (hitem : c.item? request.item = some item) :
    prepareAttack c request stamps = .error (.noAttack item.name) ↔ item.canAttack = false := by
  refine ⟨fun h => ?_, prepareAttack_of_no_attack hitem⟩
  have hverdict := verdict_prepareAttack hc request stamps
  -- A name does not determine an item, so the refusal is generalized before the cases are split.
  generalize prepareAttack c request stamps = result at h hverdict
  cases hverdict with
  | noAttack item' hitem' hattack =>
      obtain rfl : item = item' := Option.some.inj (hitem.symm.trans hitem')
      exact hattack
  | _ => cases h

lemma overdrawn_of_noUsesLeft {name : String}
    (h : prepareAttack c request stamps = .error (.usage (.noUsesLeft name))) :
    ∃ a ∈ c.abilities, a.name = name ∧ c.usesLeft a.id < request.chosen.count a.id := by
  have hverdict := verdict_prepareAttack hc request stamps
  rw [h] at hverdict
  cases hverdict with
  | overdrawn item hitem hattack hoffered a ha hover => exact ⟨a, ha, rfl, hover⟩

lemma not_overdrawn_of_prepared {attack : PreparedAttack}
    (h : prepareAttack c request stamps = .ok attack) : ¬ c.Overdrawn request.chosen := by
  have hverdict := verdict_prepareAttack hc request stamps
  rw [h] at hverdict
  cases hverdict with
  | prepared item hitem hattack hoffered hover => exact hover

/-- Preparing rolls nothing, so it has nothing to say against dice. -/
lemma prepareAttack_ne_dice (e : DiceError) : prepareAttack c request stamps ≠ .error (.dice e) := by
  intro h
  have hverdict := verdict_prepareAttack hc request stamps
  rw [h] at hverdict
  cases hverdict

end Reasons

/-! ## The verdict -/

section Verdict

variable {σ : Type} [DieSource σ] {s : Session} {dice : σ}

/-- An attack is refused for the reason for which it cannot be prepared, and for no other. -/
lemma attack_eq_error_iff {e : AttackError} :
    (s.attack request stamps dice).1 = .error e ↔
      prepareAttack s.character request stamps = .error e := by
  cases h : prepareAttack s.character request stamps with
  | error e' => simp [attack_of_refused h]
  | ok prepared =>
      obtain ⟨outcome, s', dice', hattack⟩ := exists_attack_of_prepared h dice
      rw [hattack]
      constructor <;> nofun

lemma exists_attack_iff :
    (∃ outcome, (s.attack request stamps dice).1 = .ok outcome) ↔
      ∃ prepared, prepareAttack s.character request stamps = .ok prepared := by
  cases h : prepareAttack s.character request stamps with
  | error e => simp [attack_of_refused h]
  | ok prepared =>
      obtain ⟨outcome, s', dice', hattack⟩ := exists_attack_of_prepared h dice
      rw [hattack]
      exact ⟨fun _ => ⟨prepared, rfl⟩, fun _ => ⟨outcome, rfl⟩⟩

/-- **The verdict on an attack.**  An attack is refused because there is no such item, exactly if
there is none; else because the item cannot attack, exactly if it has no attack; else because of the
first chosen ability that is not offered, if there is one, either as missing from the roster or as
not applicable; else because no uses are left, exactly if some ability is chosen more often than it
has uses left, and in the name of such an ability; and else it is made.  The dice of its formula are
never the reason.  A refused attack leaves the session and the source of the dice as they were. -/
theorem attack_verdict (s : Session) (hs : s.character.Distinct) (request : AttackRequest)
    (stamps : Nat → Stamp) (dice : σ) :
    let c := s.character
    let answer := (s.attack request stamps dice).1
    (answer = .error (.itemNotFound request.item) ↔ ∀ i ∈ c.items, i.id ≠ request.item) ∧
    (∀ item, c.item? request.item = some item →
      (answer = .error (.noAttack item.name) ↔ ∀ action ∈ item.action, action.kind ≠ .attack) ∧
      ((∃ action ∈ item.action, action.kind = .attack) →
        (∀ front id back, request.chosen = front ++ id :: back →
          (∀ i ∈ front, i ∈ c.offered item) → id ∉ c.offered item →
          ((∀ a ∈ c.abilities, a.id ≠ id) → answer = .error (.usage (.abilityNotFound id))) ∧
          ∀ a ∈ c.abilities, a.id = id → answer = .error (.notApplicable a.name item.name)) ∧
        ((∀ id ∈ request.chosen, id ∈ c.offered item) →
          ((∃ name, answer = .error (.usage (.noUsesLeft name))) ↔
            ∃ id ∈ request.chosen, c.usesLeft id < request.chosen.count id) ∧
          (∀ name, answer = .error (.usage (.noUsesLeft name)) →
            ∃ a ∈ c.abilities, a.name = name ∧ c.usesLeft a.id < request.chosen.count a.id) ∧
          ((∃ outcome, answer = .ok outcome) ↔
            ∀ id ∈ request.chosen, request.chosen.count id ≤ c.usesLeft id)))) ∧
    (∀ e, answer ≠ .error (.dice e)) ∧
    ∀ e, answer = .error e → (s.attack request stamps dice).2 = (s, dice) := by
  intro c answer
  refine ⟨?_, fun item hitem => ⟨?_, fun hkind => ⟨?_, fun hoffered => ⟨?_, ?_, ?_⟩⟩⟩, ?_, ?_⟩
  · rw [attack_eq_error_iff, prepareAttack_eq_itemNotFound_iff hs]
    simp [Character.item?, c]
  · rw [attack_eq_error_iff, prepareAttack_eq_noAttack_iff hs hitem, ← Bool.not_eq_true,
      Item.canAttack_iff]
    simp
  -- The first ability of the choice that is not offered decides; why it is not only selects the
  -- message.
  · have hattack : item.canAttack = true := Item.canAttack_iff.2 hkind
    intro front id back hchosen hfront hid
    have hrefused := prepareAttack_of_not_offered stamps hitem hattack hchosen hfront hid
    constructor
    · intro hmissing
      rw [attack_eq_error_iff, hrefused, notOffered_of_missing hmissing]
    · rintro a ha rfl
      rw [attack_eq_error_iff, hrefused, notOffered_of_mem hs ha]
  · constructor
    · rintro ⟨name, hname⟩
      obtain ⟨a, -, -, hlt⟩ := overdrawn_of_noUsesLeft hs (attack_eq_error_iff.1 hname)
      exact Character.overdrawn_iff.2 ⟨a.id, hlt⟩
    · intro hover
      obtain ⟨a, -, -, hrefused⟩ := prepareAttack_of_overdrawn stamps hitem
        (Item.canAttack_iff.2 hkind) hs hoffered hover
      exact ⟨a.name, attack_eq_error_iff.2 hrefused⟩
  · intro name hname
    exact overdrawn_of_noUsesLeft hs (attack_eq_error_iff.1 hname)
  -- After all other checks an attack is made exactly if nobody is asked for too many uses.
  · rw [exists_attack_iff]
    constructor
    · rintro ⟨attack, hprepared⟩ id hid
      exact Nat.le_of_not_lt fun hlt => not_overdrawn_of_prepared hs hprepared ⟨id, hid, hlt⟩
    · intro henough
      refine exists_prepareAttack stamps hitem (Item.canAttack_iff.2 hkind) hs hoffered ?_
      rintro ⟨id, hid, hlt⟩
      exact absurd (henough id hid) (Nat.not_le.2 hlt)
  · intro e he
    exact prepareAttack_ne_dice hs e (attack_eq_error_iff.1 he)
  · intro e he
    rw [attack_of_refused (attack_eq_error_iff.1 he)]

end Verdict

/-- A paladin, who has two smites, attacks with three of them, with two of them, and with one followed
by an ability that nobody has. -/
theorem attack_verdict_smite :
    let s := paladinSession
    let smite : AbilityId := numbered 0
    let request (chosen : List AbilityId) : AttackRequest := ⟨numbered 200, chosen, none, none⟩
    let stamps := (Fresh.numbered 1).stamps
    let dice := ScriptedDice.ofList [12, 5, 3, 4]
    (s.character.Distinct ∧ s.character.item? (numbered 200) = some (longsword (numbered 200)) ∧
      smite ∈ s.character.offered (longsword (numbered 200)) ∧ s.character.usesLeft smite = 2) ∧
    ((∃ name, (s.attack (request [smite, smite, smite]) stamps dice).1 =
          .error (.usage (.noUsesLeft name))) ∧
      (s.attack (request [smite, smite, smite]) stamps dice).2 = (s, dice)) ∧
    (∃ outcome, (s.attack (request [smite, smite]) stamps dice).1 = .ok outcome) ∧
    (s.attack (request [smite, numbered 300]) stamps dice).1 =
      .error (.usage (.abilityNotFound (numbered 300))) := by
  intro s smite request stamps dice
  have hs : s.character.Distinct := by decide +kernel
  have hitem : s.character.item? (numbered 200) = some (longsword (numbered 200)) := by
    decide +kernel
  have hoffered : smite ∈ s.character.offered (longsword (numbered 200)) := by decide +kernel
  have huses : s.character.usesLeft smite = 2 := by decide +kernel
  have hkind : ∃ action ∈ (longsword (numbered 200)).action, action.kind = .attack :=
    Item.canAttack_iff.1 (by decide)
  have hverdict := fun chosen => attack_verdict s hs (request chosen) stamps dice
  refine ⟨⟨hs, hitem, hoffered, huses⟩, ?_, ?_, ?_⟩
  · obtain ⟨-, hfound, -, hunchanged⟩ := hverdict [smite, smite, smite]
    obtain ⟨-, hspend⟩ := (hfound _ hitem).2 hkind
    obtain ⟨name, hname⟩ := (hspend (by simpa [request] using hoffered)).1.2
      ⟨smite, by simp [request], by simp [request, huses]⟩
    exact ⟨⟨name, hname⟩, hunchanged _ hname⟩
  · obtain ⟨-, hfound, -⟩ := hverdict [smite, smite]
    obtain ⟨-, hspend⟩ := (hfound _ hitem).2 hkind
    exact (hspend (by simpa [request] using hoffered)).2.2.2 (by simp [request, huses])
  · obtain ⟨-, hfound, -⟩ := hverdict [smite, numbered 300]
    obtain ⟨hfirst, -⟩ := (hfound _ hitem).2 hkind
    have hfront : ∀ i ∈ [smite], i ∈ s.character.offered (longsword (numbered 200)) := by
      simpa using hoffered
    exact (hfirst [smite] (numbered 300) [] rfl hfront (by decide +kernel)).1 (by decide +kernel)

end Tabletop.Play
