import Tabletop.Form.Basic
import Tabletop.Form.Dice
import Tabletop.Sheet.CombatLog

/-!
# Forms of the combat log

How log entries stand in a saved sheet.  An event names its variant in the member `action`; the
fields of an attack stand beside it.  A log is an array of its entries.
-/

namespace Tabletop.Sheet

open Tabletop.Dice (RollMode)
open Tabletop.Json (tag tagged? record? uint32? int32? str? bool? list? enum? innerEnum? ofUInt32
  ofInt32 ofOption)

/-- The kinds of rest in order. -/
def RestKind.all : List RestKind :=
  [.short, .long]

/-- The name of a kind of rest in documents. -/
def RestKind.key : RestKind → String
  | .short => "short"
  | .long => "long"

/-- The form of a kind of rest. -/
def RestKind.toJson (k : RestKind) : Json :=
  .str k.key

/-- Reads a kind of rest. -/
def RestKind.ofJson? : Json → Option RestKind :=
  enum? RestKind.all RestKind.key

/-- Reads a kind of rest inside an event. -/
def RestKind.ofInnerJson? : Json → Option RestKind :=
  innerEnum? RestKind.all RestKind.key

/-- The form of an effect's turns. -/
def EffectUpdate.toJson (u : EffectUpdate) : Json :=
  .obj [("name", .str u.name), ("remaining", ofUInt32 u.remaining)]

/-- Reads an effect's turns. -/
def EffectUpdate.ofJson? (j : Json) : Option EffectUpdate := do
  let slot ← record? ["name", "remaining"] j
  let name ← (slot "name").required str?
  let remaining ← (slot "remaining").required uint32?
  return ⟨name, remaining⟩

/-- The form of damage of one type. -/
def DamageByType.toJson (d : DamageByType) : Json :=
  .obj [("damage_type", .str d.damageType), ("amount", ofInt32 d.amount)]

/-- Reads damage of one type. -/
def DamageByType.ofJson? (j : Json) : Option DamageByType := do
  let slot ← record? ["damage_type", "amount"] j
  let damageType ← (slot "damage_type").required str?
  let amount ← (slot "amount").required int32?
  return ⟨damageType, amount⟩

/-- The form of the damage of a hit. -/
def DamageRecord.toJson (d : DamageRecord) : Json :=
  .obj [("formula", .str d.formula), ("result", ofInt32 d.result),
    ("breakdown", .str d.breakdown), ("critical", .bool d.critical),
    ("types", Json.ofList DamageByType.toJson d.types)]

/-- Reads the damage of a hit. -/
def DamageRecord.ofJson? (j : Json) : Option DamageRecord := do
  let slot ← record? ["formula", "result", "breakdown", "critical", "types"] j
  let formula ← (slot "formula").required str?
  let result ← (slot "result").required int32?
  let breakdown ← (slot "breakdown").required str?
  let critical ← (slot "critical").required bool?
  let types ← (slot "types").required (list? DamageByType.ofJson?)
  return ⟨formula, result, breakdown, critical, types⟩

/-- The members of an attack. -/
def AttackRecord.members (r : AttackRecord) : List (String × Json) :=
  [("weapon", .str r.weapon), ("mode", r.mode.toJson), ("d20", ofUInt32 r.d20),
    ("modifier", ofInt32 r.modifier), ("total", ofInt32 r.total),
    ("target_ac", ofInt32 r.targetAc), ("hit", .bool r.hit), ("critical", .bool r.critical),
    ("effects_applied", Json.ofList .str r.effectsApplied),
    ("damage", ofOption DamageRecord.toJson r.damage)]

/-- The form of an attack. -/
def AttackRecord.toJson (r : AttackRecord) : Json :=
  .obj r.members

/-- Reads an attack whose mode is read by `mode?`. -/
def AttackRecord.read? (mode? : Json → Option RollMode) (j : Json) : Option AttackRecord := do
  let slot ← record? ["weapon", "mode", "d20", "modifier", "total", "target_ac", "hit",
    "critical", "effects_applied", "damage"] j
  let weapon ← (slot "weapon").required str?
  let mode ← (slot "mode").required mode?
  let d20 ← (slot "d20").required uint32?
  let modifier ← (slot "modifier").required int32?
  let total ← (slot "total").required int32?
  let targetAc ← (slot "target_ac").required int32?
  let hit ← (slot "hit").required bool?
  let critical ← (slot "critical").required bool?
  let effectsApplied ← (slot "effects_applied").required (list? str?)
  let damage ← (slot "damage").optional DamageRecord.ofJson?
  return ⟨weapon, mode, d20, modifier, total, targetAc, hit, critical, effectsApplied, damage⟩

/-- Reads an attack. -/
def AttackRecord.ofJson? (j : Json) : Option AttackRecord :=
  AttackRecord.read? RollMode.ofJson? j

/-- The form of a list of identifiers. -/
def idsToJson (ids : List AbilityId) : Json :=
  Json.ofList Id.toJson ids

/-- The form of an event. -/
def LogEvent.toJson : LogEvent → Json
  | .attack r => tag "action" "attack" r.members
  | .abilityUsed ability used =>
    tag "action" "ability_used" [("ability", .str ability), ("resources_used", idsToJson used)]
  | .abilityActivated ability duration used =>
    tag "action" "ability_activated" [("ability", .str ability), ("duration", ofUInt32 duration),
      ("resources_used", idsToJson used)]
  | .abilityDeactivated ability => tag "action" "ability_deactivated" [("ability", .str ability)]
  | .endTurn updates =>
    tag "action" "end_turn" [("effects_updated", Json.ofList EffectUpdate.toJson updates)]
  | .rest kind => tag "action" "rest" [("rest", kind.toJson)]

/-- Reads the fields of an event that used an ability. -/
def LogEvent.usedOfJson? (j : Json) : Option LogEvent := do
  let slot ← record? ["ability", "resources_used"] j
  let ability ← (slot "ability").required str?
  let used ← (slot "resources_used").required (list? Id.ofJson?)
  return .abilityUsed ability used

/-- Reads the fields of an event that activated an ability. -/
def LogEvent.activatedOfJson? (j : Json) : Option LogEvent := do
  let slot ← record? ["ability", "duration", "resources_used"] j
  let ability ← (slot "ability").required str?
  let duration ← (slot "duration").required uint32?
  let used ← (slot "resources_used").required (list? Id.ofJson?)
  return .abilityActivated ability duration used

/-- Reads the fields of an event that deactivated an ability. -/
def LogEvent.deactivatedOfJson? (j : Json) : Option LogEvent := do
  let slot ← record? ["ability"] j
  let ability ← (slot "ability").required str?
  return .abilityDeactivated ability

/-- Reads the fields of an event that ended a turn. -/
def LogEvent.endTurnOfJson? (j : Json) : Option LogEvent := do
  let slot ← record? ["effects_updated"] j
  let updates ← (slot "effects_updated").required (list? EffectUpdate.ofJson?)
  return .endTurn updates

/-- Reads the fields of a rest. -/
def LogEvent.restOfJson? (j : Json) : Option LogEvent := do
  let slot ← record? ["rest"] j
  let kind ← (slot "rest").required RestKind.ofInnerJson?
  return .rest kind

/-- Reads an event. -/
def LogEvent.ofJson? (j : Json) : Option LogEvent := do
  let (action, fields) ← tagged? "action" j
  if action = "attack" then (AttackRecord.read? RollMode.ofInnerJson? fields).map .attack
  else if action = "ability_used" then LogEvent.usedOfJson? fields
  else if action = "ability_activated" then LogEvent.activatedOfJson? fields
  else if action = "ability_deactivated" then LogEvent.deactivatedOfJson? fields
  else if action = "end_turn" then LogEvent.endTurnOfJson? fields
  else if action = "rest" then LogEvent.restOfJson? fields
  else none

/-- The form of a log entry. -/
def LogEntry.toJson (e : LogEntry) : Json :=
  .obj [("id", e.id.toJson), ("turn", ofUInt32 e.turn), ("timestamp", e.timestamp.toJson),
    ("event", e.event.toJson)]

/-- Reads a log entry. -/
def LogEntry.ofJson? (j : Json) : Option LogEntry := do
  let slot ← record? ["id", "turn", "timestamp", "event"] j
  let id ← (slot "id").required Id.ofJson?
  let turn ← (slot "turn").required uint32?
  let timestamp ← (slot "timestamp").required Time.Instant.ofJson?
  let event ← (slot "event").required LogEvent.ofJson?
  return ⟨id, turn, timestamp, event⟩

/-- The form of a log. -/
def CombatLog.toJson (log : CombatLog) : Json :=
  Json.ofList LogEntry.toJson log.entries

/-- Reads a log. -/
def CombatLog.ofJson? (j : Json) : Option CombatLog :=
  (list? LogEntry.ofJson? j).map CombatLog.mk

end Tabletop.Sheet
