import Tabletop.Proofs.Form.Bounds
import Tabletop.Proofs.Play.Life

/-!
# Sound sheets stay sound

A sheet is sound when no two abilities share an identifier, every pool is within its bounds, and
abilities and effects agree in the sense of `Character.effectsConsistent`.  Nothing else is asked:
an effect may have another maximum, name or payload than the ability it comes from, several effects
may come from an active passive or instant ability, and a lasting ability may be without a duration.
Saved sheets can be edited by hand, so play may start from any of these.

Soundness is a condition on each slot (`sound_iff`), and every move keeps it (`Slot.Sound.step`).
The end of a turn is the one move that needs the whole invariant.  It writes the remaining turns of
an ability into the pool of its effect, whose maximum may be smaller.  What makes that exact is that
the effect's own pool was bounded: it held the old number of turns, so it can hold one less.
-/

namespace Tabletop.Sheet

open Tabletop.Play

/-- A slot whose ability and effects agree. -/
structure Slot.Sound (x : Slot) : Prop where
  ability : ∀ a ∈ x.ability, a.Bounded
  effects : ∀ e ∈ x.effects, e.duration.Bounded
  /-- A running ability has exactly one effect, with the same turns left. -/
  running : ∀ a ∈ x.ability, a.isRunning = true →
    ∃ e, x.effects = [e] ∧ e.duration.current = a.turnsRemaining
  /-- Effects come from an active ability only. -/
  sourced : ∀ e ∈ x.effects, ∃ a ∈ x.ability, a.active = true

/-- A sheet that can be played: distinct identifiers, bounded pools, and effects that agree with the
abilities they come from. -/
structure Character.Sound (c : Character) : Prop where
  distinct : c.Distinct
  bounded : c.Bounded
  consistent : c.effectsConsistent = true

instance (c : Character) : Decidable c.Sound :=
  decidable_of_iff (c.Distinct ∧ c.Bounded ∧ c.effectsConsistent = true)
    ⟨fun h => ⟨h.1, h.2.1, h.2.2⟩, fun h => ⟨h.distinct, h.bounded, h.consistent⟩⟩

/-! ## Soundness, slot by slot -/

namespace Character

variable {c : Character}

lemma hasMatchingEffect_iff {a : Ability} :
    c.hasMatchingEffect a = true ↔
      ∃ e, (c.slot a.id).effects = [e] ∧ e.duration.current = a.turnsRemaining := by
  unfold hasMatchingEffect slot
  constructor
  · intro h
    split at h
    · rename_i e he
      exact ⟨e, he, by simpa using h⟩
    · simp at h
  · rintro ⟨e, he, hturns⟩
    have hfilter : (c.activeEffects.filter fun e => e.source == a.id) = [e] := he
    rw [hfilter]
    simpa using hturns

lemma hasActiveSource_iff {e : ActiveEffect} :
    c.hasActiveSource e = true ↔ ∃ a ∈ (c.slot e.source).ability, a.active = true := by
  unfold hasActiveSource slot
  cases c.ability? e.source <;> simp

lemma effectsConsistent_iff :
    c.effectsConsistent = true ↔
      (∀ a ∈ c.abilities, a.isRunning = true →
        ∃ e, (c.slot a.id).effects = [e] ∧ e.duration.current = a.turnsRemaining) ∧
      ∀ e ∈ c.activeEffects, ∃ a ∈ (c.slot e.source).ability, a.active = true := by
  simp only [effectsConsistent, Bool.and_eq_true, List.all_eq_true, List.mem_filter, and_imp,
    hasMatchingEffect_iff, hasActiveSource_iff]

lemma slot_bounded (hb : c.Bounded) (id : AbilityId) :
    (∀ a ∈ (c.slot id).ability, a.Bounded) ∧ ∀ e ∈ (c.slot id).effects, e.duration.Bounded :=
  ⟨fun a ha => hb.abilities a (mem_of_slot ha),
    fun e he => hb.effects e (List.mem_of_mem_filter he)⟩

lemma bounded_of_slots (hc : c.Distinct)
    (h : ∀ id, (∀ a ∈ (c.slot id).ability, a.Bounded) ∧
      ∀ e ∈ (c.slot id).effects, e.duration.Bounded) : c.Bounded where
  abilities a ha := (h a.id).1 a (slot_of_mem hc ha)
  effects e he := (h e.source).2 e (mem_effects_iff.1 he)

/-- **Soundness is local.**  A sheet is sound when its identifiers are distinct and every slot is
sound. -/
lemma sound_iff : c.Sound ↔ c.Distinct ∧ ∀ id, (c.slot id).Sound := by
  constructor
  · intro h
    -- From the sheet to its slots every fact is about one identifier already, so it is read off.
    obtain ⟨hrunning, hsourced⟩ := effectsConsistent_iff.1 h.consistent
    refine ⟨h.distinct, fun id => ?_⟩
    obtain ⟨hability, heffects⟩ := slot_bounded h.bounded id
    refine ⟨hability, heffects, ?_, ?_⟩
    · intro a ha hrun
      have hid : a.id = id := id_of_slot ha
      exact hid ▸ hrunning a (mem_of_slot ha) hrun
    · intro e he
      have hsource : e.source = id := source_of_mem_slot he
      exact hsource ▸ hsourced e (List.mem_of_mem_filter he)
  · rintro ⟨hc, hslots⟩
    -- From the slots to the sheet distinct identifiers are needed: only then is the slot of a
    -- listed ability its own.
    refine ⟨hc, bounded_of_slots hc fun id => ⟨(hslots id).ability, (hslots id).effects⟩, ?_⟩
    refine effectsConsistent_iff.2 ⟨?_, ?_⟩
    · intro a ha hrun
      exact (hslots a.id).running a (slot_of_mem hc ha) hrun
    · intro e he
      exact (hslots e.source).sourced e (mem_effects_iff.1 he)

/-- Soundness depends on abilities and effects alone. -/
lemma Sound.congr {c' : Character} (h : c.Sound) (ha : c'.abilities = c.abilities)
    (he : c'.activeEffects = c.activeEffects) : c'.Sound := by
  obtain ⟨hc, hslots⟩ := sound_iff.1 h
  refine sound_iff.2 ⟨?_, fun id => ?_⟩
  · rwa [Distinct, ids, ha]
  · rw [slot_congr ha he]
    exact hslots id

end Character

/-! ## Every move keeps a slot sound -/

namespace Slot.Sound

variable {a : Ability} {e : ActiveEffect} {es : List ActiveEffect}

lemma of_none : Sound ⟨none, []⟩ := by
  constructor <;> simp

lemma of_some (hbounded : a.Bounded) (heffects : ∀ e ∈ es, e.duration.Bounded)
    (hrunning : a.isRunning = true → ∃ e, es = [e] ∧ e.duration.current = a.turnsRemaining)
    (hactive : ∀ e ∈ es, a.active = true) : Sound ⟨some a, es⟩ := by
  refine ⟨?_, heffects, ?_, fun e he => ⟨a, rfl, hactive e he⟩⟩
  · rintro _ ⟨⟩
    exact hbounded
  · rintro _ ⟨⟩
    exact hrunning

/-- A slot without effects is sound when its ability is bounded and not running. -/
lemma of_idle (hbounded : a.Bounded) (hidle : a.isRunning = false) : Sound ⟨some a, []⟩ :=
  of_some hbounded (by simp) (by simp [hidle]) (by simp)

/-- Effects that follow their source are bounded, and gone unless it is active. -/
lemma of_followed (hbounded : a.Bounded)
    (hrunning : a.isRunning = true →
      ∃ e, es.filterMap (follow (some a)) = [e] ∧ e.duration.current = a.turnsRemaining) :
    Sound ⟨some a, es.filterMap (follow (some a))⟩ := by
  refine of_some hbounded ?_ hrunning ?_
  · intro e' he'
    obtain ⟨e, -, hfollow⟩ := List.mem_filterMap.1 he'
    obtain ⟨b, -, -, rfl⟩ := follow_eq_some_iff.1 hfollow
    exact Pool.bounded_set _ _
  · intro e' he'
    obtain ⟨e, -, hfollow⟩ := List.mem_filterMap.1 he'
    obtain ⟨b, ⟨⟩, hactive, -⟩ := follow_eq_some_iff.1 hfollow
    exact hactive

/-- No effect comes from an empty slot. -/
lemma effects_eq_nil (h : Sound ⟨none, es⟩) : es = [] := by
  rw [List.eq_nil_iff_forall_not_mem]
  intro e he
  obtain ⟨a, ha, -⟩ := h.sourced e he
  simp at ha

lemma active_of_mem (h : Sound ⟨some a, es⟩) (he : e ∈ es) : a.active = true := by
  obtain ⟨b, ⟨⟩, hactive⟩ := h.sourced e he
  exact hactive

/-- What a turn makes of a running ability and its effect: both lose a turn, or the effect ends with
the ability. -/
lemma tick_eq (h : Sound ⟨some a, [e]⟩) (hrun : a.isRunning = true)
    (hturns : e.duration.current = a.turnsRemaining) :
    Slot.tick ⟨some a, [e]⟩ = ⟨some a.tick,
      if a.tick.active then [{ e with duration := ⟨a.turnsAfterTick, e.duration.max⟩ }]
      else []⟩ := by
  have htick : a.tick.turnsRemaining = a.turnsAfterTick :=
    Ability.turnsRemaining_tick (h.ability a rfl)
  have he : e.duration.Bounded := h.effects e (List.mem_singleton_self e)
  have hle : a.turnsAfterTick ≤ e.duration.max := by
    rw [UInt32.le_iff_toNat_le, Ability.toNat_turnsAfterTick, ← hturns]
    exact Nat.le_trans (Nat.sub_le _ _) (UInt32.le_iff_toNat_le.1 he)
  rw [tick_of_running hrun]
  cases hactive : a.tick.active with
  | true => simp [follow_of_active hactive, htick, Pool.set_of_le hle]
  | false => simp [follow_of_inactive hactive]

lemma tick {x : Slot} (h : x.Sound) : x.tick.Sound := by
  obtain ⟨oa, es⟩ := x
  cases oa with
  | none =>
      obtain rfl := h.effects_eq_nil
      exact h
  | some a =>
      have hbounded : a.Bounded := h.ability a rfl
      cases hrun : a.isRunning with
      | true =>
          -- The effect counts down with its ability, and both are over in the same turn.
          obtain ⟨e, rfl, hturns⟩ := h.running a rfl hrun
          have hnext : (tickAbility a).Bounded := Ability.bounded_tickAbility hbounded
          have heffects := congrArg Slot.effects (h.tick_eq hrun hturns)
          rw [tickAbility, if_pos hrun] at hnext
          rw [Slot.tick_of_running hrun] at heffects ⊢
          refine of_followed hnext fun hrun' => ⟨_, heffects.trans (if_pos ?_), ?_⟩
          · exact ((Ability.isRunning_iff _).1 hrun').2
          · exact (Ability.turnsRemaining_tick hbounded).symm
      | false =>
          rw [Slot.tick_of_not_running hrun]
          exact of_followed hbounded (by simp [hrun])

/-- **Every move keeps a slot sound.** -/
lemma step {x y : Slot} {m : Move} (hstep : Slot.Step x m y) (h : x.Sound) : y.Sound := by
  -- One case per move.  What makes an ability idle takes its effect away, what starts it makes its
  -- only effect, and spending touches neither.
  cases hstep with
  | grant _ id a =>
      obtain ⟨oa, es⟩ := x
      cases oa with
      | some b => exact h
      | none =>
          obtain rfl := h.effects_eq_nil
          have hbounded := Ability.bounded_fresh a
          exact of_idle ⟨hbounded.uses, hbounded.duration⟩
            (by simp [Ability.isRunning, Ability.fresh, Ability.stop])
  | remove a es => exact of_none
  | @spend a es hkind hleft =>
      exact of_some (Ability.bounded_spendUse (h.ability a rfl)) h.effects (h.running a rfl)
        fun _ he => h.active_of_mem he
  | @start a es effect hkind hidle hleft =>
      refine of_some (Ability.bounded_start (h.ability a rfl)) ?_ (fun _ => ⟨_, rfl, rfl⟩)
        fun _ _ => rfl
      intro e he
      obtain rfl := List.mem_singleton.1 he
      exact Pool.bounded_full _
  | @stop a es hkind hactive =>
      exact of_idle (Ability.bounded_stop (h.ability a rfl))
        (by simp [Ability.isRunning, Ability.stop])
  | tick => exact h.tick
  | rest _ kind =>
      obtain ⟨oa, es⟩ := x
      cases oa with
      | none => exact of_none
      | some a =>
          exact of_idle (Ability.bounded_restAbility (h.ability a rfl) kind)
            (by simp [Ability.isRunning])

end Slot.Sound

end Tabletop.Sheet

namespace Tabletop.Play

open Tabletop.Dice Tabletop.Save Tabletop.Sheet

variable {σ : Type} [DieSource σ]

/-- A session changes neither abilities nor effects of the character it is made for. -/
lemma Session.new_congr (c : Character) (config : SessionConfig) :
    (Session.new c config).character.abilities = c.abilities ∧
      (Session.new c config).character.activeEffects = c.activeEffects := by
  unfold Session.new
  split <;> exact ⟨rfl, rfl⟩

/-- A sound sheet stays sound along every run that grants under new identifiers. -/
lemma sound_run {s : Session} (hs : s.character.Sound) {ops : List (Fresh × Operation σ)}
    (hfresh : s.FreshFor ops) : (s.run ops).character.Sound :=
  Character.sound_iff.2 ⟨distinct_run hfresh,
    slots_run Slot.Sound.step (Character.sound_iff.1 hs).2 ops⟩

/-- **Play keeps saved sheets sound.**  Take any document that is read as a saved character whose
identifiers are distinct and whose effects are consistent.  Its pools are within their bounds
because the reader lowers them, and every run of a session that takes the character up keeps the
identifiers distinct, all pools within bounds and the effects consistent. -/
theorem sound_of_saved {j : Json} {saved : SavedCharacter}
    (hread : SavedCharacter.ofJson? j = some saved) (hdistinct : saved.character.Distinct)
    (hconsistent : saved.character.effectsConsistent = true) (config : SessionConfig)
    (ops : List (Fresh × Operation σ))
    (hfresh : (Session.new saved.character config).FreshFor ops) :
    ((Session.new saved.character config).run ops).character.Sound := by
  have hsaved : saved.character.Sound :=
    ⟨hdistinct, SavedCharacter.bounded_of_ofJson? hread, hconsistent⟩
  obtain ⟨ha, he⟩ := Session.new_congr saved.character config
  exact sound_run (hsaved.congr ha he) hfresh

/-- A sheet edited by hand: the effect of the fury can hold fewer turns than the ability, and bears
another name; two effects come from an active passive ability; the trance has no duration. -/
def editedSave : Json :=
  let rage := "00000000000000000000000000000001"
  let aura := "00000000000000000000000000000002"
  let trance := "00000000000000000000000000000003"
  .obj [("version", .int 1), ("saved_at", .str "2024-05-01T12:00:00Z"),
    ("character", .obj
      [("id", .str rage), ("name", .str "Grog"), ("class", .str "Barbarian"),
        ("template", .str "martial"), ("level", .int 1),
        ("attributes", .arr [.int 10, .int 10, .int 10, .int 10, .int 10, .int 10]),
        ("hit_points", .arr [.int 10, .int 10, .int 0]), ("items", .arr []),
        ("abilities", .arr
          [.obj [("id", .str rage), ("name", .str "Rage"), ("kind", .str "duration"),
            ("duration", .arr [.int 2, .int 10]), ("active", .bool true)],
          .obj [("id", .str aura), ("name", .str "Aura"), ("kind", .str "passive"),
            ("duration", .arr [.int 4, .int 4]), ("active", .bool true)],
          .obj [("id", .str trance), ("name", .str "Trance"), ("kind", .str "duration")]]),
        ("active_effects", .arr
          [.arr [.str aura, .str rage, .str "Fury", .arr [.int 7, .int 2], .null],
          .arr [.str rage, .str aura, .str "Glow", .arr [.int 9, .int 9], .null],
          .arr [.str trance, .str aura, .str "Hum", .arr [.int 1, .int 3], .null]]),
        ("combat_log", .arr []), ("turn", .int 0), ("preferences", .obj [])]),
    ("metadata", .arr [.str "Grog", .str "Barbarian", .int 1, .int 10, .int 10, .int 0,
      .str "2024-05-01T12:00:00Z"])]

/-- A run that starts the trance, ends two turns, grants an ability and rests. -/
def editedRun : List (Fresh × Operation ScriptedDice) :=
  [(.numbered 10, .activateAbility (numbered 3)), (.numbered 11, .endTurn),
    (.numbered 12, .addAbility (rage (numbered 0))), (.numbered 13, .endTurn),
    (.numbered 14, .rest .short)]

lemma isSome_editedSave : (SavedCharacter.ofJson? editedSave).isSome = true := by
  decide +kernel

/-- The session that takes the edited sheet up. -/
def editedSession : Session :=
  Session.new ((SavedCharacter.ofJson? editedSave).get isSome_editedSave).character .default

theorem sound_of_edited_save :
    ∃ saved, SavedCharacter.ofJson? editedSave = some saved ∧ saved.character.Distinct ∧
      saved.character.effectsConsistent = true ∧
      (Session.new saved.character .default).FreshFor editedRun ∧
      ((Session.new saved.character .default).run editedRun).character.Sound := by
  have hread := (Option.some_get isSome_editedSave).symm
  have hdistinct :
      ((SavedCharacter.ofJson? editedSave).get isSome_editedSave).character.Distinct := by
    decide +kernel
  have hconsistent : ((SavedCharacter.ofJson? editedSave).get
      isSome_editedSave).character.effectsConsistent = true := by
    decide +kernel
  have hfresh : editedSession.FreshFor editedRun := by decide +kernel
  exact ⟨_, hread, hdistinct, hconsistent, hfresh,
    sound_of_saved hread hdistinct hconsistent .default editedRun hfresh⟩

end Tabletop.Play
