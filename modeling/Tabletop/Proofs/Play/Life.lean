import Mathlib.Algebra.Order.Ring.Nat
import Mathlib.Data.List.Basic
import Tabletop.Play.Roster
import Tabletop.Proofs.Play.Acceptance
import Tabletop.Proofs.Sheet.Slot

/-!
# The life of one ability

A run of a session looks like one long history of a whole sheet.  Seen from one identifier it is
much simpler: a sequence of seven kinds of `Move` on a `Slot`, each by a rule that looks at nothing
else.  This module proves that reduction once, so that every statement about runs can be proved move
by move.

* `Slot.Step` says when a move can happen to a slot, and what it leaves.
* `Operation.movesOn` lists the moves that an accepted operation makes on a slot: none for most
  identifiers, one for each occurrence among the chosen abilities of an attack.
* `path_run`: a run takes every slot through the moves of its accepted operations.

The identifiers on the roster need an argument of their own, because a slot cannot see a second
ability under its identifier.  They stay distinct as long as granted identifiers are new
(`distinct_run`); `Session.FreshFor` states that assumption, the only one made about what comes from
outside.
-/

namespace Tabletop.Play

open Tabletop.Dice Tabletop.Sheet

/-! ## Moves -/

/-- What can happen to the ability under an identifier, and to the effects that come from it. -/
inductive Move
  /-- An ability is granted under the identifier. -/
  | grant (id : AbilityId) (a : Ability)
  /-- It is removed. -/
  | remove
  /-- A use is spent without activation. -/
  | spend
  /-- It is activated. -/
  | start (effect : EffectId)
  /-- It is deactivated. -/
  | stop
  /-- A turn ends. -/
  | tick
  /-- A rest is taken. -/
  | rest (kind : RestKind)

/-- A slot, a move that can happen to it, and the slot after the move. -/
inductive Slot.Step : Slot → Move → Slot → Prop
  | grant (x : Slot) (id : AbilityId) (a : Ability) :
    Slot.Step x (.grant id a) ⟨x.ability.or (some { a.fresh with id := id }), x.effects⟩
  | remove (a : Ability) (es : List ActiveEffect) : Slot.Step ⟨some a, es⟩ .remove ⟨none, []⟩
  | spend {a : Ability} (es : List ActiveEffect) (instant : a.kind = .instant)
    (left : a.isOutOfUses = false) : Slot.Step ⟨some a, es⟩ .spend ⟨some a.spendUse, es⟩
  | start {a : Ability} (es : List ActiveEffect) (effect : EffectId) (lasting : a.kind = .duration)
    (idle : a.active = false) (left : a.isOutOfUses = false) :
    Slot.Step ⟨some a, es⟩ (.start effect) ⟨some a.start, [ActiveEffect.ofAbility effect a.start]⟩
  | stop {a : Ability} (es : List ActiveEffect) (lasting : a.kind = .duration)
    (active : a.active = true) : Slot.Step ⟨some a, es⟩ .stop ⟨some a.stop, []⟩
  | tick (x : Slot) : Slot.Step x .tick x.tick
  | rest (x : Slot) (kind : RestKind) : Slot.Step x (.rest kind) (x.rest kind)

/-- A slot, moves that happen to it one after the other, and the slot after them. -/
inductive Slot.Path : Slot → List Move → Slot → Prop
  | nil (x : Slot) : Slot.Path x [] x
  | cons {x y z : Slot} {m : Move} {ms : List Move} (step : Slot.Step x m y)
    (path : Slot.Path y ms z) : Slot.Path x (m :: ms) z

namespace Slot

lemma Step.path {x y : Slot} {m : Move} (h : Step x m y) : Path x [m] y :=
  .cons h (.nil y)

lemma Path.append {x y z : Slot} {ms ns : List Move} (h : Path x ms y) (h' : Path y ns z) :
    Path x (ms ++ ns) z := by
  induction h with
  | nil x => exact h'
  | cons step _ ih => exact .cons step (ih h')

lemma Path.step {x y : Slot} {m : Move} (h : Path x [m] y) : Step x m y := by
  cases h with
  | cons hstep hrest =>
      cases hrest
      exact hstep

/-- What every move preserves, every path preserves. -/
lemma Path.preserves {P : Slot → Prop} (hP : ∀ {x m y}, Step x m y → P x → P y) {x y : Slot}
    {ms : List Move} (h : Path x ms y) (hx : P x) : P y := by
  induction h with
  | nil x => exact hx
  | cons step _ ih => exact ih (hP step hx)

end Slot

variable {σ : Type}

/-- The moves of an accepted operation on the slot of an identifier. -/
def Operation.movesOn (fresh : Fresh) (id : AbilityId) : Operation σ → List Move
  | .addAbility a => if fresh.ability = id then [.grant fresh.ability a] else []
  | .removeAbility i => if i = id then [.remove] else []
  | .useAbility i => if i = id then [.spend] else []
  | .activateAbility i => if i = id then [.start fresh.effect] else []
  | .deactivateAbility i => if i = id then [.stop] else []
  | .endTurn => [.tick]
  | .rest kind => [.rest kind]
  | .attack request _ => List.replicate (request.chosen.count id) .spend
  | _ => []

/-- The moves of an operation, by the operation. -/
lemma cases_of_mem_movesOn {op : Operation σ} {fresh : Fresh} {id : AbilityId} {m : Move}
    (h : m ∈ op.movesOn fresh id) :
    (∃ a, op = .addAbility a ∧ m = .grant fresh.ability a) ∨
    (op = .removeAbility id ∧ m = .remove) ∨
    (op = .useAbility id ∧ m = .spend) ∨
    (op = .activateAbility id ∧ m = .start fresh.effect) ∨
    (op = .deactivateAbility id ∧ m = .stop) ∨
    (op = .endTurn ∧ m = .tick) ∨
    (∃ kind, op = .rest kind ∧ m = .rest kind) ∨
    ∃ request dice, op = .attack request dice ∧ m = .spend := by
  cases op with
  | attack request dice => simp [List.eq_of_mem_replicate h]
  | _ => simp_all [Operation.movesOn]

/-! ## One operation -/

section OneOperation

variable {c : Character} {id i : AbilityId}

/-- An operation on one ability is a move on its slot and nothing on the others. -/
lemma path_own {c' : Character} {m : Move} {y : Slot} (hstep : Slot.Step (c.slot i) m y)
    (hown : c'.slot i = y) (hother : ∀ other, other ≠ i → c'.slot other = c.slot other) :
    Slot.Path (c.slot id) (if i = id then [m] else []) (c'.slot id) := by
  by_cases hi : i = id
  · subst hi
    rw [if_pos rfl, hown]
    exact hstep.path
  · rw [if_neg hi, hother id (Ne.symm hi)]
    exact .nil _

lemma path_addAbility (a : Ability) :
    Slot.Path (c.slot id) (if i = id then [.grant i a] else []) ((addAbility c i a).slot id) := by
  refine path_own (Slot.Step.grant _ i a) ?_ fun other ho => ?_
  · rw [Character.slot_addAbility, if_pos rfl]
  · rw [Character.slot_addAbility, if_neg ho]

lemma path_removeAbility {c' : Character} (h : removeAbility c i = .ok c') :
    Slot.Path (c.slot id) (if i = id then [.remove] else []) (c'.slot id) := by
  obtain ⟨a, ha, rfl⟩ := removeAbility_eq_ok_iff.1 h
  have hstep : Slot.Step (c.slot i) .remove ⟨none, []⟩ := by
    rw [Character.slot_of_found ha]
    exact .remove a _
  refine path_own hstep ?_ fun other ho => ?_
  · rw [Character.slot_filter_abilities, if_pos rfl]
  · rw [Character.slot_filter_abilities, if_neg ho]

lemma path_useAbility {stamp : Stamp} {t : Transition} (h : useAbility c i stamp = .ok t) :
    Slot.Path (c.slot id) (if i = id then [.spend] else []) (t.character.slot id) := by
  obtain ⟨a, ha, hkind, hleft, rfl⟩ := useAbility_eq_ok_iff.1 h
  have hslot := Character.slot_of_found ha
  have hstep : Slot.Step (c.slot i) .spend ⟨some a.spendUse, (c.slot i).effects⟩ := by
    rw [hslot]
    exact .spend _ hkind hleft
  refine path_own hstep ?_ fun other ho => ?_
  · rw [Character.slot_record, Character.slot_updateAbility Ability.spendUse_id, if_pos rfl, hslot]
    rfl
  · rw [Character.slot_record, Character.slot_updateAbility Ability.spendUse_id, if_neg ho]

lemma path_activateAbility {effect : EffectId} {stamp : Stamp} {t : Transition}
    (h : activateAbility c i effect stamp = .ok t) :
    Slot.Path (c.slot id) (if i = id then [.start effect] else []) (t.character.slot id) := by
  obtain ⟨a, ha, hkind, hidle, hleft, rfl⟩ := activateAbility_eq_ok_iff.1 h
  have hslot := Character.slot_of_found ha
  have hid : a.id = i := Character.id_of_slot (congrArg Slot.ability hslot)
  have hsource : (ActiveEffect.ofAbility effect a.start).source = i := hid
  have hstep : Slot.Step (c.slot i) (.start effect)
      ⟨some a.start, [ActiveEffect.ofAbility effect a.start]⟩ := by
    rw [hslot]
    exact .start _ effect hkind hidle hleft
  -- The slot of the activated ability makes the move, and every other slot stays where it is.
  refine path_own hstep ?_ fun other ho => ?_
  · rw [Character.slot_record, startedWith, Character.slot_addEffect, if_pos hsource.symm,
      Character.slot_dropEffects, if_pos rfl, Character.slot_updateAbility Ability.start_id,
      if_pos rfl, hslot]
    rfl
  · rw [Character.slot_record, startedWith, Character.slot_addEffect, hsource, if_neg ho,
      Character.slot_dropEffects, if_neg ho, Character.slot_updateAbility Ability.start_id,
      if_neg ho]

lemma path_deactivateAbility {stamp : Stamp} {t : Transition}
    (h : deactivateAbility c i stamp = .ok t) :
    Slot.Path (c.slot id) (if i = id then [.stop] else []) (t.character.slot id) := by
  obtain ⟨a, ha, hkind, hactive, rfl⟩ := deactivateAbility_eq_ok_iff.1 h
  have hslot := Character.slot_of_found ha
  have hstep : Slot.Step (c.slot i) .stop ⟨some a.stop, []⟩ := by
    rw [hslot]
    exact .stop _ hkind hactive
  refine path_own hstep ?_ fun other ho => ?_
  · rw [Character.slot_record, Character.slot_dropEffects, if_pos rfl,
      Character.slot_updateAbility Ability.stop_id, if_pos rfl, hslot]
    rfl
  · rw [Character.slot_record, Character.slot_dropEffects, if_neg ho,
      Character.slot_updateAbility Ability.stop_id, if_neg ho]

/-- The chosen abilities of an attack are spent one by one, as often as each is chosen. -/
lemma path_spendChosen {stamps : Nat → Stamp} {chosen : List AbilityId} {spent : Character}
    (h : spendChosen c stamps chosen = .ok spent) :
    Slot.Path (c.slot id) (List.replicate (chosen.count id) .spend) (spent.slot id) := by
  -- By induction on the choice: spending one of its abilities is a move of that slot and of no
  -- other, so the moves of a slot are counted by its identifier.
  induction chosen generalizing c stamps with
  | nil =>
      obtain rfl := Except.ok.inj h
      exact .nil _
  | cons i chosen ih =>
      unfold spendChosen at h
      split at h
      · rename_i t ht
        have hmoves : List.replicate ((i :: chosen).count id) Move.spend =
            (if i = id then [.spend] else []) ++ List.replicate (chosen.count id) .spend := by
          by_cases hi : i = id
          · simp [hi, List.replicate_succ]
          · simp [hi]
        rw [hmoves]
        exact (path_useAbility ht).append (ih h)
      · simp at h

end OneOperation

variable {s : Session} {fresh : Fresh} {id : AbilityId}

lemma exists_of_commit {r : Except UsageError Transition}
    (h : (s.commit r : Except SessionError (Reply σ) × Session).1.isOk = true) :
    ∃ t, r = .ok t ∧
      (s.commit r : Except SessionError (Reply σ) × Session).2.character = t.character := by
  cases r with
  | error e => simp [Session.commit, Except.isOk, Except.toBool] at h
  | ok t => exact ⟨t, rfl, rfl⟩

variable [DieSource σ]

lemma exists_of_removal (h : s.accepts fresh (.removeAbility id : Operation σ) = true) :
    ∃ c', removeAbility s.character id = .ok c' ∧
      (s.step fresh (.removeAbility id : Operation σ)).2.character = c' := by
  simp only [Session.accepts, Session.step] at h ⊢
  split
  · rename_i c' hc'
    exact ⟨c', hc', rfl⟩
  · rename_i e he
    simp [he, Except.isOk, Except.toBool] at h

lemma exists_of_attack {request : AttackRequest} {dice : σ}
    (h : s.accepts fresh (.attack request dice) = true) :
    ∃ spent stamp account, spendChosen s.character fresh.stamps request.chosen = .ok spent ∧
      (s.step fresh (.attack request dice)).2.character =
        (record spent stamp (.attack account)).character := by
  simp only [Session.accepts, Session.step] at h ⊢
  split
  · rename_i outcome s' dice' hattack
    obtain ⟨spent, stamp, account, hspent, rfl⟩ := attack_eq_ok hattack
    exact ⟨spent, stamp, account, hspent, rfl⟩
  · rename_i e s' dice' hattack
    simp [hattack, Except.isOk, Except.toBool] at h

/-- An accepted operation takes every slot through its moves. -/
lemma path_step {op : Operation σ} (h : s.accepts fresh op = true) (id : AbilityId) :
    Slot.Path (s.character.slot id) (op.movesOn fresh id)
      ((s.step fresh op).2.character.slot id) := by
  cases op with
  | addAbility a => exact path_addAbility a
  | removeAbility i =>
      obtain ⟨c', hc', hcharacter⟩ := exists_of_removal h
      exact hcharacter ▸ path_removeAbility hc'
  | useAbility i =>
      obtain ⟨t, ht, hcharacter⟩ := exists_of_commit h
      exact hcharacter ▸ path_useAbility ht
  | activateAbility i =>
      obtain ⟨t, ht, hcharacter⟩ := exists_of_commit h
      exact hcharacter ▸ path_activateAbility ht
  | deactivateAbility i =>
      obtain ⟨t, ht, hcharacter⟩ := exists_of_commit h
      exact hcharacter ▸ path_deactivateAbility ht
  | endTurn => exact (Character.slot_endTurn _ ▸ Slot.Step.tick _).path
  | rest kind => exact (Character.slot_takeRest kind _ ▸ Slot.Step.rest _ kind).path
  | attack request dice =>
      obtain ⟨spent, stamp, account, hspent, hcharacter⟩ := exists_of_attack h
      rw [hcharacter, Character.slot_record]
      exact path_spendChosen hspent
  | _ => exact .nil _

/-! ## Runs -/

namespace Session

lemma run_cons (s : Session) (op : Fresh × Operation σ) (ops : List (Fresh × Operation σ)) :
    s.run (op :: ops) = (s.step op.1 op.2).2.run ops := rfl

lemma run_append (s : Session) (ops ops' : List (Fresh × Operation σ)) :
    s.run (ops ++ ops') = (s.run ops).run ops' :=
  List.foldl_append

/-- The accepted operations of a run, in order. -/
def accepted (s : Session) : List (Fresh × Operation σ) → List (Fresh × Operation σ)
  | [] => []
  | op :: ops =>
    let rest := (s.step op.1 op.2).2.accepted ops
    if s.accepts op.1 op.2 then op :: rest else rest

lemma accepted_sublist (s : Session) (ops : List (Fresh × Operation σ)) :
    (s.accepted ops).Sublist ops := by
  induction ops generalizing s with
  | nil => exact .slnil
  | cons op ops ih =>
      unfold accepted
      cases s.accepts op.1 op.2 with
      | true => exact (ih _).cons_cons op
      | false => exact (ih _).cons op

lemma accepted_append (s : Session) (ops ops' : List (Fresh × Operation σ)) :
    s.accepted (ops ++ ops') = s.accepted ops ++ (s.run ops).accepted ops' := by
  induction ops generalizing s with
  | nil => rfl
  | cons op ops ih =>
      rw [List.cons_append, run_cons, accepted, accepted, ih]
      cases s.accepts op.1 op.2 <;> rfl

/-- What a run does to the slot of an identifier. -/
def life (s : Session) (id : AbilityId) (ops : List (Fresh × Operation σ)) : List Move :=
  (s.accepted ops).flatMap fun op => op.2.movesOn op.1 id

/-- What the moves of every accepted operation satisfy, the moves of a life satisfy. -/
lemma forall_life {P : Move → Bool} {Q : Operation σ → Bool}
    (hPQ : ∀ {fresh op m}, m ∈ op.movesOn fresh id → P m = Q op) {ops : List (Fresh × Operation σ)}
    (h : ∀ op ∈ s.accepted ops, Q op.2 = false) : ∀ m ∈ s.life id ops, P m = false := by
  intro m hm
  obtain ⟨op, hop, hm⟩ := List.mem_flatMap.1 hm
  exact (hPQ hm).trans (h op hop)

/-- A quantity summed over the moves of a life is summed over the accepted operations. -/
lemma sum_life {f : Move → Nat} {g : Operation σ → Nat}
    (hfg : ∀ fresh op, ((op.movesOn fresh id).map f).sum = g op)
    (ops : List (Fresh × Operation σ)) :
    ((s.life id ops).map f).sum = ((s.accepted ops).map fun op => g op.2).sum := by
  unfold life
  induction s.accepted ops with
  | nil => rfl
  | cons op ops ih => simp only [List.flatMap_cons, List.map_append, List.sum_append, List.map_cons,
      List.sum_cons, hfg, ih]

end Session

/-- **Every ability lives its own life.**  A run takes the slot of each identifier through the moves
of its accepted operations, whatever happens to the other slots. -/
lemma path_run (s : Session) (id : AbilityId) (ops : List (Fresh × Operation σ)) :
    Slot.Path (s.character.slot id) (s.life id ops) ((s.run ops).character.slot id) := by
  induction ops generalizing s with
  | nil => exact .nil _
  | cons op ops ih =>
      unfold Session.life Session.accepted
      cases h : s.accepts op.1 op.2 with
      | true =>
          simp only [if_true, List.flatMap_cons]
          exact (path_step h id).append (ih _)
      | false =>
          have hrest := ih (s.step op.1 op.2).2
          rw [step_eq_self h] at hrest
          rw [Session.run_cons, step_eq_self h]
          exact hrest

/-- What holds of every slot and is preserved by every move holds of every slot after a run. -/
lemma slots_run {P : Slot → Prop} (hP : ∀ {x m y}, Slot.Step x m y → P x → P y)
    (hs : ∀ id, P (s.character.slot id)) (ops : List (Fresh × Operation σ)) (id : AbilityId) :
    P ((s.run ops).character.slot id) :=
  (path_run s id ops).preserves hP (hs id)

/-! ## Identifiers -/

/-- The identifiers that a run brings for the abilities it grants. -/
def granted (ops : List (Fresh × Operation σ)) : List AbilityId :=
  ops.filterMap fun op =>
    match op.2 with
    | .addAbility _ => some op.1.ability
    | _ => none

/-- The identifiers on the roster and those generated for a run are all different. -/
def Session.FreshFor (s : Session) (ops : List (Fresh × Operation σ)) : Prop :=
  (s.character.ids ++ granted ops).Nodup

omit [DieSource σ] in
instance (s : Session) (ops : List (Fresh × Operation σ)) : Decidable (s.FreshFor ops) :=
  inferInstanceAs (Decidable (s.character.ids ++ granted ops).Nodup)

omit [DieSource σ] in
lemma granted_append (ops ops' : List (Fresh × Operation σ)) :
    granted (ops ++ ops') = granted ops ++ granted ops' :=
  List.filterMap_append

omit [DieSource σ] in
lemma Session.FreshFor.left {ops ops' : List (Fresh × Operation σ)}
    (h : s.FreshFor (ops ++ ops')) : s.FreshFor ops := by
  rw [Session.FreshFor, granted_append, ← List.append_assoc] at h
  exact h.sublist (List.sublist_append_left _ _)

lemma ids_spendChosen {c : Character} {stamps : Nat → Stamp} {chosen : List AbilityId}
    {spent : Character} (h : spendChosen c stamps chosen = .ok spent) : spent.ids = c.ids := by
  refine spendChosen_induction (P := fun d => d.ids = c.ids) h rfl fun hd ht => ?_
  obtain ⟨a, -, -, -, rfl⟩ := useAbility_eq_ok_iff.1 ht
  exact (Character.ids_updateAbility Ability.spendUse_id).trans hd

/-- After an operation the roster has no identifiers but those it had and those granted. -/
lemma ids_step_sublist (s : Session) (op : Fresh × Operation σ) :
    (s.step op.1 op.2).2.character.ids.Sublist (s.character.ids ++ granted [op]) := by
  cases h : s.accepts op.1 op.2 with
  | false =>
      rw [step_eq_self h]
      exact List.sublist_append_left _ _
  | true =>
      obtain ⟨fresh, op⟩ := op
      -- Most operations change abilities in place, so the roster keeps its identifiers in their
      -- order.
      have hkeep : ∀ {c' : Character}, c'.ids = s.character.ids →
          c'.ids.Sublist (s.character.ids ++ granted [(fresh, op)]) := by
        intro c' hc'
        rw [hc']
        exact List.sublist_append_left _ _
      cases op with
      | addAbility a =>
          have hids : (addAbility s.character fresh.ability a).ids =
              s.character.ids ++ [fresh.ability] := by
            simp [Character.ids, addAbility]
          exact hids ▸ List.Sublist.refl _
      | removeAbility i =>
          obtain ⟨c', hc', hcharacter⟩ := exists_of_removal h
          obtain ⟨-, -, rfl⟩ := removeAbility_eq_ok_iff.1 hc'
          rw [hcharacter]
          exact (List.filter_sublist.map _).trans (List.sublist_append_left _ _)
      | useAbility i =>
          obtain ⟨t, ht, hcharacter⟩ := exists_of_commit h
          obtain ⟨a, -, -, -, rfl⟩ := useAbility_eq_ok_iff.1 ht
          exact hkeep (hcharacter ▸ Character.ids_updateAbility Ability.spendUse_id)
      | activateAbility i =>
          obtain ⟨t, ht, hcharacter⟩ := exists_of_commit h
          obtain ⟨a, -, -, -, -, rfl⟩ := activateAbility_eq_ok_iff.1 ht
          exact hkeep (hcharacter ▸ Character.ids_updateAbility Ability.start_id)
      | deactivateAbility i =>
          obtain ⟨t, ht, hcharacter⟩ := exists_of_commit h
          obtain ⟨a, -, -, -, rfl⟩ := deactivateAbility_eq_ok_iff.1 ht
          exact hkeep (hcharacter ▸ Character.ids_updateAbility Ability.stop_id)
      | endTurn => exact hkeep (Character.ids_endTurn _)
      | rest kind => exact hkeep (Character.ids_takeRest kind _)
      | attack request dice =>
          obtain ⟨spent, stamp, account, hspent, hcharacter⟩ := exists_of_attack h
          have hids : spent.ids = s.character.ids := ids_spendChosen hspent
          exact hkeep (hcharacter ▸ hids)
      | _ => exact hkeep rfl

lemma freshFor_step {op : Fresh × Operation σ} {ops : List (Fresh × Operation σ)}
    (h : s.FreshFor (op :: ops)) : (s.step op.1 op.2).2.FreshFor ops := by
  have hgranted : granted (op :: ops) = granted [op] ++ granted ops := granted_append [op] ops
  unfold Session.FreshFor at h ⊢
  rw [hgranted, ← List.append_assoc] at h
  exact h.sublist ((ids_step_sublist s op).append (List.Sublist.refl _))

/-- Identifiers stay distinct along a run that grants under new ones. -/
lemma distinct_run {ops : List (Fresh × Operation σ)} (h : s.FreshFor ops) :
    (s.run ops).character.Distinct := by
  induction ops generalizing s with
  | nil => exact h.sublist (List.sublist_append_left _ _)
  | cons op ops ih => exact ih (freshFor_step h)

/-! ## Sample sessions -/

/-- The identifier with a number. -/
def numbered {sort : IdSort} (n : Nat) : Id sort :=
  ⟨⟨BitVec.ofNat 128 n⟩⟩

/-- A supply of fresh things that carry a number. -/
def Fresh.numbered (n : Nat) : Fresh :=
  ⟨Play.numbered n, Play.numbered n, fun k =>
    ⟨Play.numbered (n + k), ⟨⟨2000, 1, 1, by decide⟩, 0, 0, by decide⟩⟩⟩

/-- A barbarian's session: `numbered 0` is the fury, `numbered 1` a passive ability. -/
def barbarianSession : Session :=
  Session.new (sampleBarbarian (numbered 100) "Grog" numbered (numbered 200)) .default

/-- A paladin's session: `numbered 0` is the smite, which has two uses and wants a long rest. -/
def paladinSession : Session :=
  Session.new ((newCharacter (numbered 100) "Aldo" .paladin numbered).addItem
    (longsword (numbered 200))) .default

end Tabletop.Play
