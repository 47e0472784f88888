import Tabletop.Form.Character
import Tabletop.Proofs.Identifier
import Tabletop.Proofs.Json.RoundTrip
import Tabletop.Proofs.Time.Rfc3339
import Tabletop.Proofs.Sheet.Bounds

/-!
# Sheets are read back

Every form of a sheet is a `RoundTrip`: what is written for a value is read as that value again, up
to pools that hold more than their maxima, which the reader lowers (`roundTrip_character`).  So a
sheet comes back as it was exactly if its pools are bounded (`Character.clamped_eq_self_iff`).

A record is written and read field by field, in the same order.  Its round trip follows from those of
its fields by simplification, with the default of a field never used, since all fields are written.
The height of a round trip counts the containers that its form nests.
-/

namespace Tabletop

open Tabletop.Json (RoundTrip)

lemma roundTrip_id {sort : IdSort} : RoundTrip (@Id.ofJson? sort) Id.toJson id 0 where
  read_write a := by
    show (Uuid.parse? a.uuid.text).map Id.mk = some a
    rw [Uuid.parse?_text, Option.map_some]
  writable a _ _ := .str _ a.text
  ne_null _ := nofun

lemma roundTrip_instant : RoundTrip Time.Instant.ofJson? Time.Instant.toJson id 0 where
  read_write t := t.parse?_text
  writable t _ _ := .str _ t.text
  ne_null _ := nofun

end Tabletop

namespace Tabletop.Sheet

open Tabletop.Dice (RollMode)
open Tabletop.Json

/-! ## Abilities -/

/-- The ability with its pools lowered to their maxima. -/
def Ability.clamped (a : Ability) : Ability :=
  { a with uses := a.uses.map Pool.clamped, duration := a.duration.map Pool.clamped }

/-- The effect with its turns lowered to their maximum. -/
def ActiveEffect.clamped (e : ActiveEffect) : ActiveEffect :=
  { e with duration := e.duration.clamped }

/-- The sheet with every pool lowered to its maximum. -/
def Character.clamped (c : Character) : Character :=
  { c with
    abilities := c.abilities.map Ability.clamped
    activeEffects := c.activeEffects.map ActiveEffect.clamped }

lemma roundTrip_abilityKind : RoundTrip AbilityKind.ofJson? AbilityKind.toJson id 0 :=
  roundTrip_enum fun k => by cases k <;> simp [AbilityKind.all, AbilityKind.name]

lemma roundTrip_recharge : RoundTrip Recharge.ofJson? Recharge.toJson id 0 :=
  roundTrip_enum fun r => by cases r <;> simp [Recharge.all, Recharge.key]

lemma roundTrip_pool : RoundTrip Pool.ofJson? Pool.toJson Pool.clamped 1 where
  read_write p := by
    simp [Pool.ofJson?, Pool.toJson, -Option.bind_eq_bind, roundTrip_uint32.read_write]
  writable p room hroom := .record hroom (by simp [roundTrip_uint32.writable])
  ne_null _ := nofun

lemma roundTrip_damageBonus : RoundTrip DamageBonus.ofJson? DamageBonus.toJson id 1 where
  read_write b := by
    cases b with
    | dice formula =>
        have htag : tagged? "kind" (DamageBonus.dice formula).toJson = _ :=
          tagged?_tag 0 (by simp) (by simp [roundTrip_str.writable])
        simp [DamageBonus.ofJson?, htag, -Option.bind_eq_bind, roundTrip_str.read_write]
    | flat value =>
        have htag : tagged? "kind" (DamageBonus.flat value).toJson = _ :=
          tagged?_tag 0 (by simp) (by simp [roundTrip_int32.writable])
        simp [DamageBonus.ofJson?, htag, -Option.bind_eq_bind, roundTrip_int32.read_write]
  writable b room hroom := by
    cases b with
    | dice formula => exact .record hroom (by simp [roundTrip_str.writable])
    | flat value =>
        exact .record hroom (by simp [roundTrip_str.writable, roundTrip_int32.writable])
  ne_null b := by cases b <;> nofun

lemma roundTrip_abilityEffect : RoundTrip AbilityEffect.ofJson? AbilityEffect.toJson id 2 where
  read_write e := by
    simp [AbilityEffect.ofJson?, AbilityEffect.toJson, -Option.bind_eq_bind, roundTrip_str.nullable,
      roundTrip_damageBonus.nullable, roundTrip_int32.nullable, roundTrip_str.list.read_write]
  writable e room hroom := .record (by omega) (by
    simp (disch := omega) [roundTrip_str.writable_ofOption, roundTrip_int32.writable_ofOption,
      roundTrip_damageBonus.writable_ofOption, roundTrip_str.list.writable])
  ne_null _ := nofun

lemma roundTrip_ability : RoundTrip Ability.ofJson? Ability.toJson Ability.clamped 3 where
  read_write a := by
    simp [Ability.ofJson?, Ability.toJson, Ability.members, -Option.bind_eq_bind,
      roundTrip_id.read_write, roundTrip_str.read_write, roundTrip_abilityKind.read_write,
      roundTrip_str.list.read_write, roundTrip_recharge.read_write, roundTrip_pool.nullable,
      roundTrip_bool.read_write, roundTrip_abilityEffect.nullable, Ability.clamped]
  writable a room hroom := .record (by omega) (by
    simp (disch := omega) [Ability.members, roundTrip_id.writable, roundTrip_str.writable,
      roundTrip_abilityKind.writable, roundTrip_str.list.writable, roundTrip_recharge.writable,
      roundTrip_pool.writable_ofOption, roundTrip_bool.writable,
      roundTrip_abilityEffect.writable_ofOption])
  ne_null _ := nofun

lemma roundTrip_activeEffect :
    RoundTrip ActiveEffect.ofJson? ActiveEffect.toJson ActiveEffect.clamped 3 where
  read_write e := by
    simp [ActiveEffect.ofJson?, ActiveEffect.toJson, -Option.bind_eq_bind, roundTrip_id.read_write,
      roundTrip_str.read_write, roundTrip_pool.read_write, roundTrip_abilityEffect.nullable,
      ActiveEffect.clamped]
  writable e room hroom := .record (by omega) (by
    simp (disch := omega) [roundTrip_id.writable, roundTrip_str.writable, roundTrip_pool.writable,
      roundTrip_abilityEffect.writable_ofOption])
  ne_null _ := nofun

/-! ## Items -/

lemma roundTrip_itemKind : RoundTrip ItemKind.ofJson? ItemKind.toJson id 0 :=
  roundTrip_enum fun k => by cases k <;> simp [ItemKind.all, ItemKind.key]

lemma roundTrip_actionKind : RoundTrip ActionKind.ofJson? ActionKind.toJson id 0 :=
  roundTrip_enum fun k => by cases k <;> simp [ActionKind.tag]

lemma roundTrip_itemAction : RoundTrip ItemAction.ofJson? ItemAction.toJson id 1 where
  read_write a := by
    simp [ItemAction.ofJson?, ItemAction.toJson, -Option.bind_eq_bind,
      roundTrip_actionKind.read_write, roundTrip_str.nullable]
  writable a room hroom := .record (by omega) (by
    simp (disch := omega) [roundTrip_actionKind.writable, roundTrip_str.writable_ofOption])
  ne_null _ := nofun

lemma roundTrip_item : RoundTrip Item.ofJson? Item.toJson id 2 where
  read_write i := by
    simp [Item.ofJson?, Item.toJson, Item.members, -Option.bind_eq_bind, roundTrip_id.read_write,
      roundTrip_str.read_write, roundTrip_itemKind.read_write, roundTrip_str.list.read_write,
      roundTrip_itemAction.nullable, roundTrip_bool.read_write]
  writable i room hroom := .record (by omega) (by
    simp (disch := omega) [Item.members, roundTrip_id.writable, roundTrip_str.writable,
      roundTrip_itemKind.writable, roundTrip_str.list.writable,
      roundTrip_itemAction.writable_ofOption, roundTrip_bool.writable])
  ne_null _ := nofun

/-! ## The combat log -/

lemma roundTrip_rollMode : RoundTrip RollMode.ofJson? RollMode.toJson id 0 :=
  roundTrip_enum fun m => by cases m <;> simp [RollMode.all, RollMode.name]

lemma roundTrip_innerRollMode : RoundTrip RollMode.ofInnerJson? RollMode.toJson id 0 :=
  roundTrip_innerEnum fun m => by cases m <;> simp [RollMode.all, RollMode.name]

lemma roundTrip_innerRestKind : RoundTrip RestKind.ofInnerJson? RestKind.toJson id 0 :=
  roundTrip_innerEnum fun k => by cases k <;> simp [RestKind.all, RestKind.key]

lemma roundTrip_effectUpdate : RoundTrip EffectUpdate.ofJson? EffectUpdate.toJson id 1 where
  read_write u := by
    simp [EffectUpdate.ofJson?, EffectUpdate.toJson, -Option.bind_eq_bind, roundTrip_str.read_write,
      roundTrip_uint32.read_write]
  writable u room hroom := .record hroom (by
    simp [roundTrip_str.writable, roundTrip_uint32.writable])
  ne_null _ := nofun

lemma roundTrip_damageByType : RoundTrip DamageByType.ofJson? DamageByType.toJson id 1 where
  read_write d := by
    simp [DamageByType.ofJson?, DamageByType.toJson, -Option.bind_eq_bind, roundTrip_str.read_write,
      roundTrip_int32.read_write]
  writable d room hroom := .record hroom (by
    simp [roundTrip_str.writable, roundTrip_int32.writable])
  ne_null _ := nofun

lemma roundTrip_damageRecord : RoundTrip DamageRecord.ofJson? DamageRecord.toJson id 3 where
  read_write d := by
    simp [DamageRecord.ofJson?, DamageRecord.toJson, -Option.bind_eq_bind, roundTrip_str.read_write,
      roundTrip_int32.read_write, roundTrip_bool.read_write, roundTrip_damageByType.list.read_write]
  writable d room hroom := .record (by omega) (by
    simp (disch := omega) [roundTrip_str.writable, roundTrip_int32.writable,
      roundTrip_bool.writable, roundTrip_damageByType.list.writable])
  ne_null _ := nofun

/-! ### Events -/

/-- The members of an attack can be written. -/
lemma writable_attackRecord (r : AttackRecord) {room : Nat} (hroom : 3 ≤ room) :
    ∀ member ∈ r.members, Writable room member.2 := by
  simp (disch := omega) [AttackRecord.members, roundTrip_str.writable, roundTrip_rollMode.writable,
    roundTrip_uint32.writable, roundTrip_int32.writable, roundTrip_bool.writable,
    roundTrip_str.list.writable, roundTrip_damageRecord.writable_ofOption]

lemma read?_attackRecord (r : AttackRecord) :
    AttackRecord.read? RollMode.ofInnerJson? (.obj r.members) = some r := by
  simp [AttackRecord.read?, AttackRecord.members, -Option.bind_eq_bind, roundTrip_str.read_write,
    roundTrip_innerRollMode.read_write, roundTrip_uint32.read_write, roundTrip_int32.read_write,
    roundTrip_bool.read_write, roundTrip_str.list.read_write, roundTrip_damageRecord.nullable]

lemma roundTrip_logEvent : RoundTrip LogEvent.ofJson? LogEvent.toJson id 4 where
  read_write e := by
    -- The tag is taken off first, and what is left is read like a record of the kind it names.
    cases e with
    | attack r =>
        have htag : tagged? "action" (LogEvent.attack r).toJson = _ :=
          tagged?_tag 3 (by simp [AttackRecord.members]) (writable_attackRecord r (Nat.le_refl 3))
        simp [LogEvent.ofJson?, htag, -Option.bind_eq_bind, read?_attackRecord]
    | abilityUsed ability used =>
        have htag : tagged? "action" (LogEvent.abilityUsed ability used).toJson = _ :=
          tagged?_tag 1 (by simp)
            (by simp [idsToJson, roundTrip_str.writable, roundTrip_id.list.writable])
        simp [LogEvent.ofJson?, htag, LogEvent.usedOfJson?, idsToJson, -Option.bind_eq_bind,
          roundTrip_str.read_write, roundTrip_id.list.read_write]
    | abilityActivated ability duration used =>
        have htag : tagged? "action" (LogEvent.abilityActivated ability duration used).toJson = _ :=
          tagged?_tag 1 (by simp)
            (by simp [idsToJson, roundTrip_str.writable, roundTrip_uint32.writable,
              roundTrip_id.list.writable])
        simp [LogEvent.ofJson?, htag, LogEvent.activatedOfJson?, idsToJson, -Option.bind_eq_bind,
          roundTrip_str.read_write, roundTrip_uint32.read_write, roundTrip_id.list.read_write]
    | abilityDeactivated ability =>
        have htag : tagged? "action" (LogEvent.abilityDeactivated ability).toJson = _ :=
          tagged?_tag 0 (by simp) (by simp [roundTrip_str.writable])
        simp [LogEvent.ofJson?, htag, LogEvent.deactivatedOfJson?, -Option.bind_eq_bind,
          roundTrip_str.read_write]
    | endTurn updates =>
        have htag : tagged? "action" (LogEvent.endTurn updates).toJson = _ :=
          tagged?_tag 2 (by simp) (by simp [roundTrip_effectUpdate.list.writable])
        simp [LogEvent.ofJson?, htag, LogEvent.endTurnOfJson?, -Option.bind_eq_bind,
          roundTrip_effectUpdate.list.read_write]
    | rest kind =>
        have htag : tagged? "action" (LogEvent.rest kind).toJson = _ :=
          tagged?_tag 0 (by simp) (by simp [roundTrip_innerRestKind.writable])
        simp [LogEvent.ofJson?, htag, LogEvent.restOfJson?, -Option.bind_eq_bind,
          roundTrip_innerRestKind.read_write]
  writable e room hroom := by
    cases e with
    | attack r =>
        refine .record (by omega) (List.forall_mem_cons.2 ⟨.str _ _, ?_⟩)
        exact writable_attackRecord r (by omega)
    | _ =>
        exact .record (by omega) (by
          simp (disch := omega) [idsToJson, roundTrip_str.writable, roundTrip_uint32.writable,
            roundTrip_id.list.writable, roundTrip_effectUpdate.list.writable,
            roundTrip_innerRestKind.writable])
  ne_null e := by cases e <;> nofun

lemma roundTrip_logEntry : RoundTrip LogEntry.ofJson? LogEntry.toJson id 5 where
  read_write e := by
    simp [LogEntry.ofJson?, LogEntry.toJson, -Option.bind_eq_bind, roundTrip_id.read_write,
      roundTrip_uint32.read_write, roundTrip_instant.read_write, roundTrip_logEvent.read_write]
  writable e room hroom := .record (by omega) (by
    simp (disch := omega) [roundTrip_id.writable, roundTrip_uint32.writable,
      roundTrip_instant.writable, roundTrip_logEvent.writable])
  ne_null _ := nofun

lemma roundTrip_combatLog : RoundTrip CombatLog.ofJson? CombatLog.toJson id 6 where
  read_write log := by
    simp [CombatLog.ofJson?, CombatLog.toJson, roundTrip_logEntry.list.read_write]
  writable log room hroom := roundTrip_logEntry.list.writable log.entries room hroom
  ne_null _ := nofun

/-! ## Characters -/

lemma roundTrip_attributes : RoundTrip Attributes.ofJson? Attributes.toJson id 1 where
  read_write s := by
    simp [Attributes.ofJson?, Attributes.toJson, -Option.bind_eq_bind, roundTrip_uint8.read_write]
  writable s room hroom := .record hroom (by simp [roundTrip_uint8.writable])
  ne_null _ := nofun

lemma roundTrip_hitPoints : RoundTrip HitPoints.ofJson? HitPoints.toJson id 1 where
  read_write hp := by
    simp [HitPoints.ofJson?, HitPoints.toJson, -Option.bind_eq_bind, roundTrip_int32.read_write]
  writable hp room hroom := .record hroom (by simp [roundTrip_int32.writable])
  ne_null _ := nofun

lemma roundTrip_characterClass : RoundTrip CharacterClass.ofJson? CharacterClass.toJson id 0 :=
  roundTrip_enum fun c => by cases c <;> simp [CharacterClass.all, CharacterClass.name]

lemma roundTrip_sheetTemplate : RoundTrip SheetTemplate.ofJson? SheetTemplate.toJson id 0 :=
  roundTrip_enum fun t => by cases t <;> simp [SheetTemplate.key]

lemma roundTrip_diceEntry : RoundTrip DiceEntry.ofJson? DiceEntry.toJson id 0 :=
  roundTrip_enum fun d => by cases d <;> simp [DiceEntry.key]

lemma roundTrip_logRetention : RoundTrip LogRetention.ofJson? LogRetention.toJson id 0 :=
  roundTrip_enum fun r => by cases r <;> simp [LogRetention.all, LogRetention.key]

lemma roundTrip_preferences : RoundTrip Preferences.ofJson? Preferences.toJson id 1 where
  read_write p := by
    simp [Preferences.ofJson?, Preferences.toJson, -Option.bind_eq_bind,
      roundTrip_diceEntry.read_write, roundTrip_bool.read_write, roundTrip_logRetention.read_write]
  writable p room hroom := .record hroom (by
    simp [roundTrip_diceEntry.writable, roundTrip_bool.writable, roundTrip_logRetention.writable])
  ne_null _ := nofun

lemma roundTrip_character : RoundTrip Character.ofJson? Character.toJson Character.clamped 7 where
  read_write c := by
    simp [Character.ofJson?, Character.toJson, -Option.bind_eq_bind, roundTrip_id.read_write,
      roundTrip_str.read_write, roundTrip_characterClass.read_write,
      roundTrip_sheetTemplate.read_write, roundTrip_uint8.read_write,
      roundTrip_attributes.read_write, roundTrip_hitPoints.read_write,
      roundTrip_item.list.read_write, roundTrip_ability.list.read_write,
      roundTrip_activeEffect.list.read_write, roundTrip_combatLog.read_write,
      roundTrip_uint32.read_write, roundTrip_preferences.read_write, Character.clamped]
  writable c room hroom := .record (by omega) (by
    simp (disch := omega) [roundTrip_id.writable, roundTrip_str.writable,
      roundTrip_characterClass.writable, roundTrip_sheetTemplate.writable,
      roundTrip_uint8.writable, roundTrip_attributes.writable, roundTrip_hitPoints.writable,
      roundTrip_item.list.writable, roundTrip_ability.list.writable,
      roundTrip_activeEffect.list.writable, roundTrip_combatLog.writable,
      roundTrip_uint32.writable, roundTrip_preferences.writable])
  ne_null _ := nofun

/-! ### Sheets that need no lowering -/

lemma Pool.clamped_eq_self_iff {p : Pool} : p.clamped = p ↔ p.Bounded := by
  constructor
  · intro h
    rw [← h]
    exact p.bounded_set p.current
  · intro h
    have hle : p.current ≤ p.max := h
    rw [Pool.clamped, Pool.set, if_pos hle]

lemma option_map_eq_self_iff {α : Type} {f : α → α} {o : Option α} :
    o.map f = o ↔ ∀ a ∈ o, f a = a := by
  cases o <;> simp

lemma list_map_eq_self_iff {α : Type} {f : α → α} {as : List α} :
    as.map f = as ↔ ∀ a ∈ as, f a = a := by
  have h : as.map f = as.map id ↔ ∀ a ∈ as, f a = a := List.map_inj_left
  rwa [List.map_id] at h

lemma Ability.clamped_eq_self_iff {a : Ability} : a.clamped = a ↔ a.Bounded := by
  have hparts : a.clamped = a ↔
      a.uses.map Pool.clamped = a.uses ∧ a.duration.map Pool.clamped = a.duration := by
    constructor
    · exact fun h => ⟨congrArg uses h, congrArg duration h⟩
    · rintro ⟨huses, hduration⟩
      rw [Ability.clamped, huses, hduration]
  simp only [hparts, option_map_eq_self_iff, Pool.clamped_eq_self_iff]
  exact ⟨fun ⟨huses, hduration⟩ => ⟨huses, hduration⟩, fun h => ⟨h.uses, h.duration⟩⟩

lemma ActiveEffect.clamped_eq_self_iff {e : ActiveEffect} :
    e.clamped = e ↔ e.duration.Bounded := by
  rw [← Pool.clamped_eq_self_iff]
  exact ⟨congrArg ActiveEffect.duration, fun h => by rw [ActiveEffect.clamped, h]⟩

/-- Lowering changes a sheet exactly if some pool holds more than its maximum. -/
lemma Character.clamped_eq_self_iff {c : Character} : c.clamped = c ↔ c.Bounded := by
  have hparts : c.clamped = c ↔ c.abilities.map Ability.clamped = c.abilities ∧
      c.activeEffects.map ActiveEffect.clamped = c.activeEffects := by
    constructor
    · exact fun h => ⟨congrArg abilities h, congrArg activeEffects h⟩
    · rintro ⟨habilities, heffects⟩
      rw [Character.clamped, habilities, heffects]
  simp only [hparts, list_map_eq_self_iff, Ability.clamped_eq_self_iff,
    ActiveEffect.clamped_eq_self_iff]
  exact ⟨fun ⟨habilities, heffects⟩ => ⟨habilities, heffects⟩, fun h => ⟨h.abilities, h.effects⟩⟩

end Tabletop.Sheet
