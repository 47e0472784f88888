import Mathlib.Tactic.Lemma
import Tabletop.Play.Lifecycle

/-!
# Pools within their bounds

`Pool.Bounded` says that one pool holds no more than its maximum.  This module lifts it to
abilities, active effects and whole sheets, and shows that every change an operation makes to an
ability keeps it.

## What the changes do to pools

The changes of `Sheet/Ability.lean` touch an ability's two pools and its flag and nothing else.
The `_id`, `_uses` and `_recharge` lemmas say what stays; they are `simp` lemmas, so that no later
proof opens `Ability.start` or `Ability.tick` to learn that an identifier survives.

A tick is the delicate change: it stores the remaining turns through the clamping `Pool.set`, which
is exact only because the countdown was bounded before (`turnsRemaining_tick`).
-/

namespace Tabletop.Sheet

open Tabletop.Play

namespace Pool

@[simp] lemma max_spend (p : Pool) : p.spend.max = p.max := by
  unfold spend
  split <;> rfl

/-- A value within the maximum is stored as it is. -/
lemma set_of_le {p : Pool} {value : UInt32} (h : value ≤ p.max) :
    p.set value = ⟨value, p.max⟩ := by
  rw [set, if_pos h]

/-- Spending takes one, and nothing from an empty pool. -/
lemma toNat_current_spend (p : Pool) : p.spend.current.toNat = p.current.toNat - 1 := by
  unfold spend
  split
  · rename_i h
    simp [h]
  · rename_i h
    have hle : (1 : UInt32) ≤ p.current := by
      rw [UInt32.le_iff_toNat_le, UInt32.toNat_one]
      exact Nat.one_le_iff_ne_zero.2 fun h0 => h (UInt32.toNat_inj.1 h0)
    simp [UInt32.toNat_sub_of_le _ _ hle]

lemma bounded_full (max : UInt32) : (full max).Bounded :=
  UInt32.le_refl _

lemma bounded_spend {p : Pool} (h : p.Bounded) : p.spend.Bounded := by
  have hp : p.current.toNat ≤ p.max.toNat := UInt32.le_iff_toNat_le.1 h
  rw [Bounded, UInt32.le_iff_toNat_le, max_spend, toNat_current_spend]
  omega

end Pool

/-! ## Bounded sheets -/

/-- Whether the pools of an ability are within their bounds. -/
structure Ability.Bounded (a : Ability) : Prop where
  uses : ∀ u ∈ a.uses, u.Bounded
  duration : ∀ d ∈ a.duration, d.Bounded

/-- Whether every pool of a sheet, of an ability or of an active effect, is within its bounds. -/
structure Character.Bounded (c : Character) : Prop where
  abilities : ∀ a ∈ c.abilities, a.Bounded
  effects : ∀ e ∈ c.activeEffects, e.duration.Bounded

instance (a : Ability) : Decidable a.Bounded :=
  decidable_of_iff ((∀ u ∈ a.uses, u.Bounded) ∧ ∀ d ∈ a.duration, d.Bounded)
    ⟨fun h => ⟨h.1, h.2⟩, fun h => ⟨h.1, h.2⟩⟩

instance (c : Character) : Decidable c.Bounded :=
  decidable_of_iff ((∀ a ∈ c.abilities, a.Bounded) ∧ ∀ e ∈ c.activeEffects, e.duration.Bounded)
    ⟨fun h => ⟨h.1, h.2⟩, fun h => ⟨h.1, h.2⟩⟩

namespace Ability

variable (a : Ability)

/-! ## What a change leaves alone -/

@[simp] lemma spendUse_id : a.spendUse.id = a.id := rfl
@[simp] lemma start_id : a.start.id = a.id := rfl
@[simp] lemma stop_id : a.stop.id = a.id := rfl

@[simp] lemma tickAbility_id : (tickAbility a).id = a.id := by
  unfold tickAbility
  split <;> rfl

@[simp] lemma tickAbility_uses : (tickAbility a).uses = a.uses := by
  unfold tickAbility
  split <;> rfl

@[simp] lemma tickAbility_recharge : (tickAbility a).recharge = a.recharge := by
  unfold tickAbility
  split <;> rfl

@[simp] lemma restAbility_id (kind : RestKind) : (restAbility kind a).id = a.id := by
  unfold restAbility
  split
  · rfl
  · split <;> rfl

@[simp] lemma restAbility_recharge (kind : RestKind) :
    (restAbility kind a).recharge = a.recharge := by
  unfold restAbility
  split
  · rfl
  · split <;> rfl

/-- No ability is active after a rest. -/
@[simp] lemma restAbility_active (kind : RestKind) : (restAbility kind a).active = false := by
  unfold restAbility
  split
  · rfl
  · split
    · rfl
    · rename_i h
      exact Bool.eq_false_iff.2 h

/-- A rest fills the uses up exactly when it recharges the ability. -/
lemma restAbility_uses (kind : RestKind) :
    (restAbility kind a).uses =
      if rechargesOn a.recharge kind then a.uses.map Pool.refill else a.uses := by
  unfold restAbility
  split
  · rfl
  · split <;> rfl

lemma isRunning_iff : a.isRunning = true ↔ a.kind = .duration ∧ a.active = true := by
  simp [isRunning]

/-- Limited uses are spent when none is left. -/
lemma isOutOfUses_iff {a : Ability} {u : Pool} (hu : a.uses = some u) :
    a.isOutOfUses = true ↔ u.current.toNat = 0 := by
  simp only [isOutOfUses, hu, Pool.isEmpty, beq_iff_eq]
  exact UInt32.toNat_inj.symm

/-! ## The countdown -/

@[simp] lemma turnsRemaining_stop : a.stop.turnsRemaining = 0 := by
  unfold turnsRemaining stop
  cases a.duration <;> rfl

@[simp] lemma turnsRemaining_fresh : a.fresh.turnsRemaining = 0 :=
  turnsRemaining_stop a

lemma turnsRemaining_eq : a.turnsRemaining = a.countdown.current := by
  unfold turnsRemaining countdown
  cases a.duration <;> rfl

variable {a}

lemma bounded_countdown (h : a.Bounded) : a.countdown.Bounded := by
  unfold countdown
  cases hd : a.duration with
  | none => exact UInt32.zero_le
  | some d => exact h.duration d hd

/-- One turn less than what was left, as a number. -/
lemma toNat_turnsAfterTick : a.turnsAfterTick.toNat = a.turnsRemaining.toNat - 1 := by
  rw [turnsRemaining_eq, ← Pool.toNat_current_spend]
  unfold turnsAfterTick Pool.spend
  split
  · rename_i h
    simp [h]
  · rfl

/-- A bounded countdown loses exactly one turn: the remaining turns are within the maximum, so
storing them clamps nothing. -/
lemma tick_duration (h : a.Bounded) :
    a.tick.duration = some ⟨a.turnsAfterTick, a.countdown.max⟩ := by
  have hle : a.turnsAfterTick ≤ a.countdown.max := by
    rw [UInt32.le_iff_toNat_le, toNat_turnsAfterTick, turnsRemaining_eq]
    exact Nat.le_trans (Nat.sub_le _ _) (UInt32.le_iff_toNat_le.1 (bounded_countdown h))
  exact congrArg some (Pool.set_of_le hle)

lemma turnsRemaining_tick (h : a.Bounded) : a.tick.turnsRemaining = a.turnsAfterTick := by
  rw [turnsRemaining, tick_duration h]

/-- Nothing is left of a countdown after a rest, unless the ability was inactive with turns left. -/
lemma turnsRemaining_restAbility (kind : RestKind)
    (h : a.active = false → a.turnsRemaining = 0) : (restAbility kind a).turnsRemaining = 0 := by
  unfold restAbility
  split
  · exact turnsRemaining_fresh a
  · split
    · exact turnsRemaining_stop a
    · rename_i hidle
      exact h (Bool.eq_false_iff.2 hidle)

/-! ## Every change keeps the bounds -/

lemma bounded_spendUse (h : a.Bounded) : a.spendUse.Bounded where
  uses u hu := by
    obtain ⟨v, hv, rfl⟩ := Option.map_eq_some_iff.1 hu
    exact Pool.bounded_spend (h.uses v hv)
  duration := h.duration

lemma bounded_start (h : a.Bounded) : a.start.Bounded where
  uses := (bounded_spendUse h).uses
  duration d hd := by
    obtain rfl := Option.some.inj hd
    exact Pool.bounded_refill _

lemma bounded_stop (h : a.Bounded) : a.stop.Bounded where
  uses := h.uses
  duration d hd := by
    obtain ⟨v, -, rfl⟩ := Option.map_eq_some_iff.1 hd
    exact Pool.bounded_drain v

variable (a) in
/-- A granted ability is bounded whatever its pools were. -/
lemma bounded_fresh : a.fresh.Bounded where
  uses u hu := by
    obtain ⟨v, -, rfl⟩ := Option.map_eq_some_iff.1 hu
    exact Pool.bounded_refill v
  duration d hd := by
    obtain ⟨v, -, rfl⟩ := Option.map_eq_some_iff.1 hd
    exact Pool.bounded_drain v

lemma bounded_tickAbility (h : a.Bounded) : (tickAbility a).Bounded := by
  unfold tickAbility
  split
  · refine ⟨h.uses, fun d hd => ?_⟩
    obtain rfl := Option.some.inj hd
    exact Pool.bounded_set _ _
  · exact h

lemma bounded_restAbility (h : a.Bounded) (kind : RestKind) : (restAbility kind a).Bounded := by
  unfold restAbility
  split
  · exact bounded_fresh a
  · split
    · exact bounded_stop h
    · exact h

end Ability

end Tabletop.Sheet
