import Tabletop.Proofs.Play.DamageTotal

/-!
# Turns and types of damage

Two lists of a session are shown in groups, the combat log by turn and the damage of a hit by type.
Both are groupings in the sense of `IsGrouping`, so that nothing is lost, repeated or reordered in
them; damage without a type is in one group with damage of the type `physical`.

The amounts by type are made from the same groups.  Each is the sum of the rolls of the sources with
that type, and a source is known by its place: two sources that look alike have two rolls
(`amount_of_mem_amountsByType`).
-/

namespace Tabletop.Play

open Tabletop.Dice Tabletop.Rules Tabletop.Sheet

variable {breakdown : List DamageSource} {rolls : List RollResult}

/-- The totals of the rolls of all sources of a type, given one roll for each source. -/
def totalsOfType (breakdown : List DamageSource) (rolls : List RollResult) (type : String) :
    List Int32 :=
  ((breakdown.zip rolls).filter fun part => part.1.groupType = type).map fun part => part.2.total

/-- A source has the type that it names, or is physical. -/
lemma groupType_eq_iff {s : DamageSource} {type : String} :
    s.groupType = type ↔ s.damageType = some type ∨ s.damageType = none ∧ type = "physical" := by
  rw [DamageSource.groupType]
  cases s.damageType with
  | none => simp [untypedDamage, eq_comm]
  | some t => simp

/-- The types of the amounts are those of the sources. -/
lemma types_amountsByType (hlength : rolls.length = breakdown.length) :
    (amountsByType breakdown rolls).map DamageByType.damageType =
      (groupByType breakdown).map Prod.fst := by
  have hsources : (breakdown.zip rolls).map Prod.fst = breakdown :=
    List.map_fst_zip (Nat.le_of_eq hlength.symm)
  have hgroups := groupInOrder_map Prod.fst DamageSource.groupType (breakdown.zip rolls)
  rw [hsources] at hgroups
  rw [groupByType, hgroups, amountsByType, List.map_map, List.map_map]
  rfl

/-- The amount of a type is the sum of the rolls of its sources. -/
lemma amount_of_mem_amountsByType
    (h : ∀ group ∈ partsByType breakdown rolls,
      Tabletop.Unsaturated (group.2.map fun part => part.2.total))
    {part : DamageByType} (hpart : part ∈ amountsByType breakdown rolls) :
    part.amount.toInt = exactSum (totalsOfType breakdown rolls part.damageType) := by
  obtain ⟨group, hgroup, rfl⟩ := List.mem_map.1 hpart
  have hmembers := (inGroups_groupInOrder _ _).members group hgroup
  exact (toInt_satSum (h group hgroup)).trans (by rw [hmembers]; rfl)

/-- **Turns and types are complete.**  The log by turn and the damage by type are groupings of the
entries and the sources; a source is grouped under its type, or under `physical`.  As long as no sum
stops at a bound, the amounts of rolled damage are for the types of its sources, in their order; each is
the sum of the rolls of the sources of its type, and together they are the sum of all the rolls. -/
theorem grouped_exactly :
    (∀ log : CombatLog, IsGrouping LogEntry.turn log.entries log.byTurn) ∧
    (∀ breakdown : List DamageSource,
      IsGrouping DamageSource.groupType breakdown (groupByType breakdown)) ∧
    (∀ (s : DamageSource) (type : String),
      s.groupType = type ↔ s.damageType = some type ∨ s.damageType = none ∧ type = "physical") ∧
    ∀ (σ : Type) [DieSource σ] (resolution : DamageResolution) (critical : Bool) (dice : σ),
      let d := (rollDamage resolution critical dice).1
      d.Unsaturated →
        d.rolls.length = resolution.breakdown.length ∧
        d.byType.map DamageByType.damageType = (groupByType resolution.breakdown).map Prod.fst ∧
        (∀ part ∈ d.byType, part.amount.toInt =
          exactSum (totalsOfType resolution.breakdown d.rolls part.damageType)) ∧
        exactSum (d.byType.map DamageByType.amount) = exactSum (d.rolls.map RollResult.total) := by
  refine ⟨fun log => isGrouping_groupInOrder _ _, fun breakdown => isGrouping_groupInOrder _ _,
    fun s type => groupType_eq_iff, ?_⟩
  intro σ _ resolution critical dice d h
  have hlength : d.rolls.length = resolution.breakdown.length :=
    length_rollSources critical resolution.breakdown dice
  exact ⟨hlength, types_amountsByType hlength, fun part => amount_of_mem_amountsByType h.2,
    exactSum_amountsByType hlength h.2⟩

/-- A blow with two equal bonuses without a type, one that is named physical, and a penalty. -/
def cursedBlow : DamageResolution where
  formula := "1d8+3 + 2d8 + 2d8 + 1d4 - 1d4"
  baseType := "slashing"
  breakdown :=
    [⟨"Longsword", "1d8+3", some "slashing"⟩, ⟨"Divine Smite", "2d8", none⟩,
      ⟨"Divine Smite", "2d8", none⟩, ⟨"Shove", "1d4", some "physical"⟩,
      ⟨"Curse", "-1d4", some "slashing"⟩]
  governing := .strength
  attributeMod := 3

/-- The two equal bonuses have rolls of their own, and both count. -/
theorem grouped_exactly_cursed :
    let d := (rollDamage cursedBlow false (ScriptedDice.ofList [5, 1, 2, 3, 4, 2, 4])).1
    d.Unsaturated ∧ d.byType.map DamageByType.damageType = ["slashing", "physical"] ∧
      (∀ part ∈ d.byType, part.amount.toInt =
        exactSum (totalsOfType cursedBlow.breakdown d.rolls part.damageType)) ∧
      totalsOfType cursedBlow.breakdown d.rolls "physical" = [3, 7, 2] ∧
      exactSum (d.byType.map DamageByType.amount) = 16 := by
  intro d
  have hexact : d.Unsaturated := by decide +kernel
  have htotals : totalsOfType cursedBlow.breakdown d.rolls "physical" = [3, 7, 2] := by
    decide +kernel
  have hrolls : exactSum (d.rolls.map RollResult.total) = 16 := by decide +kernel
  obtain ⟨-, -, -, hdamage⟩ := grouped_exactly
  obtain ⟨-, htypes, hamounts, hsum⟩ := hdamage ScriptedDice cursedBlow false _ hexact
  exact ⟨hexact, htypes, hamounts, htotals, hsum.trans hrolls⟩

end Tabletop.Play
