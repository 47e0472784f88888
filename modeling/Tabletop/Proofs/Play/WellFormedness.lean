import Mathlib.Data.List.Nodup
import Tabletop.Proofs.Play.Soundness

/-!
# Well-formed sheets stay well-formed

Saved sheets may hold states that play never builds.  A sheet that was only ever changed by
operations is in better order: no passive or instant ability is active, an inactive ability has no
turns left, and every active effect is an exact copy of the ability it comes from.  `WellFormed`
collects these facts with the soundness of `Proofs/Play/Soundness.lean`.

`effectsConsistent` alone is not preserved by a step, and neither are the bounds: the end of a turn
is exact only on bounded pools, and it keeps an effect a copy of its source only because the two
pools had the same maximum.  So the invariant proved move by move is the whole of `Slot.WellFormed`,
which extends `Slot.Sound`.
-/

namespace Tabletop.Sheet

open Tabletop.Play

/-- An effect that is a copy of the ability it comes from. -/
structure ActiveEffect.Mirrors (e : ActiveEffect) (a : Ability) : Prop where
  duration : a.duration = some e.duration
  name : e.name = a.name
  effect : e.effect = a.effect

/-- A sheet as operations build it. -/
structure Character.WellFormed (c : Character) : Prop where
  /-- No two abilities share an identifier. -/
  distinct : c.Distinct
  /-- Every pool holds at most its maximum. -/
  bounded : c.Bounded
  /-- No passive or instant ability is active. -/
  lasting : ∀ a ∈ c.abilities, a.active = true → a.kind = .duration
  /-- An inactive ability has no turns left. -/
  drained : ∀ a ∈ c.abilities, a.active = false → a.turnsRemaining = 0
  /-- No two effects come from the same ability. -/
  sources : (c.activeEffects.map ActiveEffect.source).Nodup
  /-- Every effect comes from an active lasting ability, -/
  sourced : ∀ e ∈ c.activeEffects, ∃ a ∈ c.abilities, a.id = e.source ∧ a.isRunning = true
  /-- and every active lasting ability has an effect. -/
  running : ∀ a ∈ c.abilities, a.isRunning = true → ∃ e ∈ c.activeEffects, e.source = a.id
  /-- An effect is a copy of its source. -/
  mirrors : ∀ e ∈ c.activeEffects, ∀ a ∈ c.abilities, a.id = e.source → e.Mirrors a

/-- A slot as operations build it. -/
structure Slot.WellFormed (x : Slot) : Prop extends x.Sound where
  lasting : ∀ a ∈ x.ability, a.active = true → a.kind = .duration
  drained : ∀ a ∈ x.ability, a.active = false → a.turnsRemaining = 0
  mirrors : ∀ a ∈ x.ability, ∀ e ∈ x.effects, e.Mirrors a

instance (e : ActiveEffect) (a : Ability) : Decidable (e.Mirrors a) :=
  decidable_of_iff (a.duration = some e.duration ∧ e.name = a.name ∧ e.effect = a.effect)
    ⟨fun h => ⟨h.1, h.2.1, h.2.2⟩, fun h => ⟨h.duration, h.name, h.effect⟩⟩

instance (c : Character) : Decidable c.WellFormed :=
  decidable_of_iff
    (c.Distinct ∧ c.Bounded ∧ (∀ a ∈ c.abilities, a.active = true → a.kind = .duration) ∧
      (∀ a ∈ c.abilities, a.active = false → a.turnsRemaining = 0) ∧
      (c.activeEffects.map ActiveEffect.source).Nodup ∧
      (∀ e ∈ c.activeEffects, ∃ a ∈ c.abilities, a.id = e.source ∧ a.isRunning = true) ∧
      (∀ a ∈ c.abilities, a.isRunning = true → ∃ e ∈ c.activeEffects, e.source = a.id) ∧
      ∀ e ∈ c.activeEffects, ∀ a ∈ c.abilities, a.id = e.source → e.Mirrors a)
    ⟨fun ⟨h1, h2, h3, h4, h5, h6, h7, h8⟩ => ⟨h1, h2, h3, h4, h5, h6, h7, h8⟩,
      fun ⟨h1, h2, h3, h4, h5, h6, h7, h8⟩ => ⟨h1, h2, h3, h4, h5, h6, h7, h8⟩⟩

/-! ## Well-formedness, slot by slot -/

namespace Character

variable {c : Character}

/-- The effects of one source are as many as its occurrences among the sources. -/
lemma length_slot_effects (id : AbilityId) :
    (c.slot id).effects.length = (c.activeEffects.map ActiveEffect.source).count id := by
  rw [List.count, List.countP_map, List.countP_eq_length_filter]
  rfl

lemma WellFormed.slot (h : c.WellFormed) (id : AbilityId) : (c.slot id).WellFormed := by
  obtain ⟨hability, heffects⟩ := slot_bounded h.bounded id
  have hfind : ∀ {a : Ability}, a ∈ c.abilities → a.id = id → (c.slot id).ability = some a :=
    fun ha hid => hid ▸ slot_of_mem h.distinct ha
  have hmirrors : ∀ a ∈ (c.slot id).ability, ∀ e ∈ (c.slot id).effects, e.Mirrors a := by
    intro a ha e he
    refine h.mirrors e (List.mem_of_mem_filter he) a (mem_of_slot ha) ?_
    rw [id_of_slot ha, source_of_mem_slot he]
  refine ⟨⟨hability, heffects, ?_, ?_⟩, ?_, ?_, hmirrors⟩
  · intro a ha hrun
    obtain ⟨e, he, hsource⟩ := h.running a (mem_of_slot ha) hrun
    have hmem : e ∈ (c.slot id).effects := by
      rw [← id_of_slot ha, ← hsource]
      exact mem_effects_iff.1 he
    -- Effects come from different abilities, so a slot holds one at most; and there is one.
    have hlength : (c.slot id).effects.length ≤ 1 := by
      rw [length_slot_effects]
      exact List.nodup_iff_count_le_one.1 h.sources id
    have hone : (c.slot id).effects = [e] := by
      cases heq : (c.slot id).effects with
      | nil => simp [heq] at hmem
      | cons e' es =>
          rw [heq] at hmem hlength
          obtain rfl : es = [] := List.eq_nil_of_length_eq_zero (by simpa using hlength)
          rw [List.mem_singleton.1 hmem]
    refine ⟨e, hone, ?_⟩
    rw [Ability.turnsRemaining, (hmirrors a ha e hmem).duration]
  · intro e he
    obtain ⟨a, ha, hid, hrun⟩ := h.sourced e (List.mem_of_mem_filter he)
    exact ⟨a, hfind ha (hid.trans (source_of_mem_slot he)), ((Ability.isRunning_iff a).1 hrun).2⟩
  · intro a ha hactive
    exact h.lasting a (mem_of_slot ha) hactive
  · intro a ha hidle
    exact h.drained a (mem_of_slot ha) hidle

/-- **Well-formedness is local.**  A sheet is well-formed when its identifiers are distinct and
every slot is well-formed. -/
lemma wellFormed_iff : c.WellFormed ↔ c.Distinct ∧ ∀ id, (c.slot id).WellFormed := by
  refine ⟨fun h => ⟨h.distinct, h.slot⟩, ?_⟩
  rintro ⟨hc, hslots⟩
  have hfound : ∀ {a : Ability}, a ∈ c.abilities → (c.slot a.id).ability = some a :=
    fun ha => slot_of_mem hc ha
  -- The active ability behind an effect runs, and a running ability has a single effect.
  have hsourced : ∀ e ∈ c.activeEffects, ∃ a ∈ (c.slot e.source).ability,
      a.isRunning = true ∧ (c.slot e.source).effects = [e] := by
    intro e he
    have hmem := mem_effects_iff.1 he
    obtain ⟨a, ha, hactive⟩ := (hslots e.source).sourced e hmem
    have hrun : a.isRunning = true :=
      (Ability.isRunning_iff a).2 ⟨(hslots e.source).lasting a ha hactive, hactive⟩
    obtain ⟨e', he', -⟩ := (hslots e.source).running a ha hrun
    have heq : e = e' := by simpa [he'] using hmem
    exact ⟨a, ha, hrun, heq ▸ he'⟩
  refine ⟨hc, bounded_of_slots hc fun id => ⟨(hslots id).ability, (hslots id).effects⟩, ?_, ?_, ?_,
    ?_, ?_, ?_⟩
  · intro a ha hactive
    exact (hslots a.id).lasting a (hfound ha) hactive
  · intro a ha hidle
    exact (hslots a.id).drained a (hfound ha) hidle
  · rw [List.nodup_iff_count_le_one]
    intro id
    rw [← length_slot_effects]
    cases heq : (c.slot id).effects with
    | nil => simp
    | cons e es =>
        have he : e ∈ (c.slot id).effects := by simp [heq]
        obtain ⟨a, -, -, hone⟩ := hsourced e (List.mem_of_mem_filter he)
        rw [source_of_mem_slot he] at hone
        rw [← heq, hone]
        simp
  · intro e he
    obtain ⟨a, ha, hrun, -⟩ := hsourced e he
    exact ⟨a, mem_of_slot ha, id_of_slot ha, hrun⟩
  · intro a ha hrun
    obtain ⟨e, he, -⟩ := (hslots a.id).running a (hfound ha) hrun
    have hmem : e ∈ (c.slot a.id).effects := by simp [he]
    exact ⟨e, List.mem_of_mem_filter hmem, source_of_mem_slot hmem⟩
  · intro e he a ha hid
    refine (hslots e.source).mirrors a ?_ e (mem_effects_iff.1 he)
    exact hid ▸ hfound ha

/-- A well-formed sheet is sound. -/
lemma WellFormed.sound (h : c.WellFormed) : c.Sound :=
  sound_iff.2 ⟨h.distinct, fun id => (h.slot id).toSound⟩

/-- Well-formedness depends on abilities and effects alone. -/
lemma WellFormed.congr {c' : Character} (h : c.WellFormed) (ha : c'.abilities = c.abilities)
    (he : c'.activeEffects = c.activeEffects) : c'.WellFormed := by
  refine wellFormed_iff.2 ⟨(h.sound.congr ha he).distinct, fun id => ?_⟩
  rw [slot_congr ha he]
  exact h.slot id

/-- A new character is well-formed: it has neither abilities nor effects. -/
lemma wellFormed_new (id : CharacterId) (name : String) (characterClass : CharacterClass) :
    (Character.new id name characterClass).WellFormed := by
  constructor <;> simp [Character.new, Distinct, ids]
  exact ⟨by simp, by simp⟩

end Character

/-! ## Every move keeps a slot well-formed -/

namespace Slot.WellFormed

variable {a : Ability} {e : ActiveEffect} {es : List ActiveEffect}

lemma of_none : WellFormed ⟨none, []⟩ where
  toSound := Sound.of_none
  lasting := by simp
  drained := by simp
  mirrors := by simp

lemma of_some (hsound : Sound ⟨some a, es⟩) (hlasting : a.active = true → a.kind = .duration)
    (hdrained : a.active = false → a.turnsRemaining = 0) (hmirrors : ∀ e ∈ es, e.Mirrors a) :
    WellFormed ⟨some a, es⟩ := by
  refine ⟨hsound, ?_, ?_, ?_⟩
  · rintro _ ⟨⟩
    exact hlasting
  · rintro _ ⟨⟩
    exact hdrained
  · rintro _ ⟨⟩
    exact hmirrors

/-- A slot whose ability is drained, inactive and without effects is well-formed. -/
lemma of_idle (hbounded : a.Bounded) (hidle : a.active = false) (hdrained : a.turnsRemaining = 0) :
    WellFormed ⟨some a, []⟩ := by
  have hsound : Sound ⟨some a, []⟩ := Sound.of_idle hbounded (by simp [Ability.isRunning, hidle])
  exact of_some hsound (by simp [hidle]) (fun _ => hdrained) (by simp)

lemma running_of_active (h : WellFormed ⟨some a, es⟩) (hactive : a.active = true) :
    a.isRunning = true :=
  (Ability.isRunning_iff a).2 ⟨h.lasting a rfl hactive, hactive⟩

/-- An inactive ability of a well-formed slot has no effects. -/
lemma effects_of_idle (h : WellFormed ⟨some a, es⟩) (hidle : a.active = false) : es = [] := by
  rw [List.eq_nil_iff_forall_not_mem]
  intro e he
  simp [h.toSound.active_of_mem he] at hidle

/-- The end of a turn leaves the effect a copy of its source: both lose a turn, and they had the
same maximum. -/
lemma mirrors_tick (h : WellFormed ⟨some a, [e]⟩) :
    ActiveEffect.Mirrors { e with duration := ⟨a.turnsAfterTick, e.duration.max⟩ } a.tick := by
  obtain ⟨hduration, hname, heffect⟩ := h.mirrors a rfl e (List.mem_singleton_self e)
  refine ⟨?_, hname, heffect⟩
  rw [Ability.tick_duration (h.ability a rfl), Ability.countdown, hduration, Option.getD_some]

lemma tick {x : Slot} (h : x.WellFormed) : x.tick.WellFormed := by
  -- Soundness is known; what is left is that countdown, name and effect still mirror the ability.
  have hsound := h.toSound.tick
  obtain ⟨oa, es⟩ := x
  cases oa with
  | none =>
      obtain rfl := h.toSound.effects_eq_nil
      exact of_none
  | some a =>
      cases hactive : a.active with
      | true =>
          have hrun := h.running_of_active hactive
          obtain ⟨e, rfl, hturns⟩ := h.running a rfl hrun
          rw [h.toSound.tick_eq hrun hturns] at hsound ⊢
          refine of_some hsound (fun _ => h.lasting a rfl hactive) ?_ ?_
          · intro hidle
            rw [Ability.turnsRemaining_tick (h.ability a rfl)]
            simpa [Ability.tick] using hidle
          · intro e' he'
            split at he'
            · obtain rfl := List.mem_singleton.1 he'
              exact h.mirrors_tick
            · simp at he'
      | false =>
          obtain rfl := h.effects_of_idle hactive
          have hrun : a.isRunning = false := by simp [Ability.isRunning, hactive]
          rw [Slot.tick_of_not_running hrun]
          exact h

/-- **Every move keeps a slot well-formed.** -/
lemma step {x y : Slot} {m : Move} (hstep : Slot.Step x m y) (h : x.WellFormed) :
    y.WellFormed := by
  have hsound : y.Sound := h.toSound.step hstep
  -- One case per move, with soundness from `Slot.Sound.step`: an idle slot has nothing to mirror,
  -- and a started ability has just made its effect.
  cases hstep with
  | grant _ id a =>
      obtain ⟨oa, es⟩ := x
      cases oa with
      | some b => exact h
      | none =>
          obtain rfl := h.toSound.effects_eq_nil
          exact of_idle (hsound.ability _ rfl) rfl (Ability.turnsRemaining_fresh a)
  | remove a es => exact of_none
  | @spend a es hkind hleft =>
      refine of_some hsound (h.lasting a rfl) (h.drained a rfl) ?_
      intro e he
      obtain ⟨hduration, hname, heffect⟩ := h.mirrors a rfl e he
      exact ⟨hduration, hname, heffect⟩
  | @start a es effect hkind hidle hleft =>
      refine of_some hsound (fun _ => hkind) (by simp [Ability.start]) ?_
      intro e he
      obtain rfl := List.mem_singleton.1 he
      exact ⟨rfl, rfl, rfl⟩
  | @stop a es hkind hactive =>
      exact of_idle (hsound.ability _ rfl) rfl (Ability.turnsRemaining_stop a)
  | tick => exact h.tick
  | rest _ kind =>
      obtain ⟨oa, es⟩ := x
      cases oa with
      | none => exact of_none
      | some a =>
          exact of_idle (hsound.ability _ rfl) (Ability.restAbility_active a kind)
            (Ability.turnsRemaining_restAbility kind (h.drained a rfl))

end Slot.WellFormed

end Tabletop.Sheet

namespace Tabletop.Play

open Tabletop.Dice Tabletop.Sheet

variable {σ : Type} [DieSource σ]

/-- A well-formed sheet stays well-formed along every run that grants under new identifiers. -/
lemma wellFormed_run {s : Session} (hs : s.character.WellFormed)
    {ops : List (Fresh × Operation σ)} (hfresh : s.FreshFor ops) :
    (s.run ops).character.WellFormed :=
  Character.wellFormed_iff.2 ⟨distinct_run hfresh, slots_run Slot.WellFormed.step hs.slot ops⟩

/-- **Well-formedness is an invariant of play.**  Whatever operation is done to a well-formed sheet,
accepted or rejected, leaves it well-formed.  Hence every run from a new character leads to a
well-formed sheet, on which abilities and effects agree.  Granted identifiers are assumed to be
new. -/
theorem wellFormed_reachable :
    (∀ (s : Session) (fresh : Fresh) (op : Operation σ), s.character.WellFormed →
      s.FreshFor [(fresh, op)] → (s.step fresh op).2.character.WellFormed) ∧
    ∀ (id : CharacterId) (name : String) (characterClass : CharacterClass)
      (config : SessionConfig) (ops : List (Fresh × Operation σ)), (granted ops).Nodup →
      let c := ((Session.new (Character.new id name characterClass) config).run ops).character
      c.WellFormed ∧ c.effectsConsistent = true := by
  refine ⟨?_, ?_⟩
  · intro s fresh op hs hfresh
    exact wellFormed_run hs hfresh
  · intro id name characterClass config ops hops
    obtain ⟨ha, he⟩ := Session.new_congr (Character.new id name characterClass) config
    have hnew := (Character.wellFormed_new id name characterClass).congr ha he
    have hfresh : (Session.new (Character.new id name characterClass) config).FreshFor ops := by
      have hids : (Session.new (Character.new id name characterClass) config).character.ids = [] :=
        congrArg (List.map Ability.id) ha
      rw [Session.FreshFor, hids]
      exact hops
    have hrun := wellFormed_run hnew hfresh
    exact ⟨hrun, hrun.sound.consistent⟩

/-- A barbarian who rages, and a run that grants a fury with wild pools, attacks, and rests. -/
theorem wellFormed_reachable_rage :
    let op : Operation ScriptedDice := .activateAbility (numbered 0)
    let wild : Ability :=
      { rage (numbered 0) with uses := some ⟨9, 2⟩, duration := some ⟨7, 3⟩, active := true }
    let ops : List (Fresh × Operation ScriptedDice) :=
      [(.numbered 1, .addAbility wild), (.numbered 2, .activateAbility (numbered 1)),
        (.numbered 3, .endTurn), (.numbered 4, .useAbility (numbered 1)), (.numbered 5, .endTurn)]
    (barbarianSession.character.WellFormed ∧
      barbarianSession.FreshFor [(.numbered 2, op)] ∧
      (barbarianSession.step (.numbered 2) op).2.character.WellFormed) ∧
    (granted ops).Nodup ∧
      ((Session.new (Character.new (numbered 9) "Grog" .barbarian) .default).run
        ops).character.WellFormed := by
  intro op wild ops
  have hs : barbarianSession.character.WellFormed := by decide
  have hfresh : barbarianSession.FreshFor [(.numbered 2, op)] := by decide
  have hops : (granted ops).Nodup := by decide
  exact ⟨⟨hs, hfresh, wellFormed_reachable.1 _ _ op hs hfresh⟩, hops,
    (wellFormed_reachable.2 (numbered 9) "Grog" .barbarian .default ops hops).1⟩

end Tabletop.Play
