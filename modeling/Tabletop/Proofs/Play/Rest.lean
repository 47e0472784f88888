import Mathlib.Data.List.Forall2
import Tabletop.Proofs.Play.Life

/-!
# Rests absorb what came before

A long rest brings a character back to the same state whatever was done since: `Character.renewed` is
that state, and it is an invariant of play.  No operation but granting and removing an ability can
change it (`renewed_step`), so it stays the same along every run (`renewed_run`), and the long rest
at the end of a run leaves what the long rest at its start would have left (`rests_absorb`).

Renewing forgets how many uses and turns are left and remembers how many there can be.  The one way
to change what it remembers is to activate or tick an ability that lasts but has no duration, which
gets an empty one then; `Character.Timed` rules that out, and it is an invariant too because it can
be read off the renewed state.

A short rest ends as much as a long one and gives back less.  So of two rests in a row the longer one
counts, in whichever order they are taken (`withoutLog_takeRest_takeRest`).
-/

namespace Tabletop.Sheet

open Tabletop.Play

namespace Pool

@[simp] lemma refill_spend (p : Pool) : p.spend.refill = p.refill := by
  unfold refill spend
  split <;> rfl

end Pool

/-- The longer of two rests. -/
def RestKind.longer (first second : RestKind) : RestKind :=
  if first = .long then .long else second

/-! ## What renewing an ability forgets -/

namespace Ability

variable (a : Ability)

lemma fresh_spendUse : a.spendUse.fresh = a.fresh := by
  unfold fresh stop spendUse
  cases a.uses <;> simp

lemma fresh_stop : a.stop.fresh = a.fresh := by
  unfold fresh stop
  cases a.duration <;> rfl

lemma fresh_fresh : a.fresh.fresh = a.fresh := by
  unfold fresh stop
  cases a.uses <;> cases a.duration <;> rfl

lemma fresh_restAbility (kind : RestKind) : (restAbility kind a).fresh = a.fresh := by
  unfold restAbility
  split
  · exact a.fresh_fresh
  · split
    · exact a.fresh_stop
    · rfl

/-- A fresh ability has nothing left to give back or to end. -/
lemma restAbility_fresh (kind : RestKind) : restAbility kind a.fresh = a.fresh := by
  unfold restAbility
  split
  · exact a.fresh_fresh
  · exact if_neg Bool.false_ne_true

/-- Two rests in a row are as good as the longer one. -/
lemma restAbility_restAbility (first second : RestKind) :
    restAbility second (restAbility first a) = restAbility (first.longer second) a := by
  cases first with
  | long => exact a.restAbility_fresh second
  | short =>
      cases second with
      | long => exact a.fresh_restAbility .short
      | short =>
          by_cases hrecharge : rechargesOn a.recharge .short = true
          · have hfresh : restAbility .short a = a.fresh := if_pos hrecharge
            show restAbility .short (restAbility .short a) = restAbility .short a
            rw [hfresh, restAbility_fresh]
          · have hkept : rechargesOn (restAbility .short a).recharge .short ≠ true := by
              rwa [restAbility_recharge]
            have hidle : (restAbility .short a).active ≠ true := by simp
            rw [restAbility, if_neg hkept, if_neg hidle]
            rfl

variable {a}

/-- Starting fills the duration up, so that an ability with a duration keeps its maximum. -/
lemma fresh_start (h : a.duration.isSome = true) : a.start.fresh = a.fresh := by
  obtain ⟨d, hd⟩ := Option.isSome_iff_exists.1 h
  have hdrained : d.refill.drain = d.drain := rfl
  unfold fresh stop start spendUse countdown
  rw [hd]
  cases a.uses <;> simp [hdrained]

lemma fresh_tickAbility (h : a.kind = .duration → a.duration.isSome = true) :
    (tickAbility a).fresh = a.fresh := by
  unfold tickAbility
  split
  · rename_i hrun
    obtain ⟨d, hd⟩ := Option.isSome_iff_exists.1 (h (a.isRunning_iff.1 hrun).1)
    simp only [fresh, stop, tick, countdown, hd]
    rfl
  · rfl

end Ability

namespace Character

variable {c c' : Character} {id : AbilityId} {stamp : Stamp} {t : Transition}

/-! ## The renewed sheet -/

/-- What a long rest leaves of a sheet, its log aside. -/
def renewed (c : Character) : Character :=
  { c with
    abilities := c.abilities.map Ability.fresh
    activeEffects := []
    combatLog := .empty
    turn := 0
    hitPoints := c.hitPoints.restore }

/-- Whether every lasting ability has a duration. -/
def Timed (c : Character) : Prop :=
  ∀ a ∈ c.abilities, a.kind = .duration → a.duration.isSome = true

instance (c : Character) : Decidable c.Timed :=
  inferInstanceAs (Decidable (∀ a ∈ c.abilities, a.kind = .duration → a.duration.isSome = true))

lemma withoutLog_longRest (stamp : Stamp) :
    (takeRest c .long stamp).character.withoutLog = c.renewed := rfl

/-- Whether lasting abilities have durations can be seen after renewing them. -/
lemma timed_renewed : c.renewed.Timed ↔ c.Timed := by
  have hfresh : ∀ a : Ability, (a.fresh.kind = .duration → a.fresh.duration.isSome = true) ↔
      (a.kind = .duration → a.duration.isSome = true) := by
    intro a
    show (a.kind = .duration → (a.duration.map Pool.drain).isSome = true) ↔ _
    rw [Option.isSome_map]
  unfold Timed
  show (∀ a ∈ c.abilities.map Ability.fresh, _) ↔ _
  rw [List.forall_mem_map]
  exact forall₂_congr fun a _ => hfresh a

lemma Timed.of_renewed (hc : c.Timed) (h : c'.renewed = c.renewed) : c'.Timed := by
  rw [← timed_renewed, h, timed_renewed]
  exact hc

/-- Renewing sees the fresh forms of the abilities and the greatest hit points, and of effects, log
and turn nothing. -/
lemma renewed_eq (c : Character) {abilities : List Ability} {hitPoints : HitPoints}
    (effects : List ActiveEffect) (log : CombatLog) (turn : UInt32)
    (habilities : abilities.map Ability.fresh = c.abilities.map Ability.fresh)
    (hhitPoints : hitPoints.restore = c.hitPoints.restore) :
    Character.renewed { c with
      abilities := abilities
      activeEffects := effects
      combatLog := log
      turn := turn
      hitPoints := hitPoints } = c.renewed := by
  unfold renewed
  rw [habilities, hhitPoints]

/-! ## No operation changes it -/

lemma map_fresh_updateAbility {f : Ability → Ability}
    (hf : ∀ a, c.ability? id = some a → (f a).fresh = a.fresh) :
    (c.updateAbility id f).abilities.map Ability.fresh = c.abilities.map Ability.fresh :=
  map_updateFirst hf

lemma renewed_useAbility (h : useAbility c id stamp = .ok t) :
    t.character.renewed = c.renewed := by
  obtain ⟨a, -, -, -, rfl⟩ := useAbility_eq_ok_iff.1 h
  exact renewed_eq c _ _ _ (map_fresh_updateAbility fun b _ => b.fresh_spendUse) rfl

lemma renewed_activateAbility {effect : EffectId} (hc : c.Timed)
    (h : activateAbility c id effect stamp = .ok t) : t.character.renewed = c.renewed := by
  obtain ⟨a, ha, hlasting, -, -, rfl⟩ := activateAbility_eq_ok_iff.1 h
  have hstarted : ∀ b, c.ability? id = some b → b.start.fresh = b.fresh := by
    intro b hb
    obtain rfl : a = b := Option.some.inj (ha.symm.trans hb)
    exact Ability.fresh_start (hc a (List.mem_of_find?_eq_some ha) hlasting)
  exact renewed_eq c _ _ _ (map_fresh_updateAbility hstarted) rfl

lemma renewed_deactivateAbility (h : deactivateAbility c id stamp = .ok t) :
    t.character.renewed = c.renewed := by
  obtain ⟨a, -, -, -, rfl⟩ := deactivateAbility_eq_ok_iff.1 h
  exact renewed_eq c _ _ _ (map_fresh_updateAbility fun b _ => b.fresh_stop) rfl

lemma renewed_endTurn (hc : c.Timed) : (endTurn c stamp).character.renewed = c.renewed := by
  have hticked : (c.abilities.map tickAbility).map Ability.fresh = c.abilities.map Ability.fresh := by
    rw [List.map_map]
    exact List.map_congr_left fun a ha => Ability.fresh_tickAbility (hc a ha)
  exact renewed_eq c _ _ _ hticked rfl

lemma renewed_takeRest (kind : RestKind) : (takeRest c kind stamp).character.renewed = c.renewed := by
  have hrested : (c.abilities.map (restAbility kind)).map Ability.fresh =
      c.abilities.map Ability.fresh := by
    rw [List.map_map]
    exact List.map_congr_left fun a _ => a.fresh_restAbility kind
  refine renewed_eq c _ _ _ hrested ?_
  split <;> rfl

lemma renewed_spendChosen {stamps : Nat → Stamp} {chosen : List AbilityId} {spent : Character}
    (h : spendChosen c stamps chosen = .ok spent) : spent.renewed = c.renewed :=
  spendChosen_induction (P := fun d => d.renewed = c.renewed) h rfl fun hd ht =>
    (renewed_useAbility ht).trans hd

/-! ## Two rests in a row -/

lemma withoutLog_takeRest (kind : RestKind) (stamp : Stamp) :
    (takeRest c kind stamp).character.withoutLog =
      { c with
        abilities := c.abilities.map (restAbility kind)
        activeEffects := []
        combatLog := .empty
        turn := 0
        hitPoints := if kind = .long then c.hitPoints.restore else c.hitPoints } := rfl

/-- Two rests in a row leave the same as the longer one alone. -/
lemma withoutLog_takeRest_takeRest (c : Character) (first second : RestKind)
    (stamp stamp' : Stamp) :
    (takeRest (takeRest c first stamp).character second stamp').character.withoutLog =
      (takeRest c (first.longer second) stamp).character.withoutLog := by
  have habilities : (takeRest c first stamp).character.abilities.map (restAbility second) =
      c.abilities.map (restAbility (first.longer second)) := by
    show (c.abilities.map (restAbility first)).map _ = _
    rw [List.map_map]
    exact List.map_congr_left fun a _ => a.restAbility_restAbility first second
  have hhitPoints : (if second = .long then (takeRest c first stamp).character.hitPoints.restore
      else (takeRest c first stamp).character.hitPoints) =
      if first.longer second = .long then c.hitPoints.restore else c.hitPoints := by
    cases first <;> cases second <;> rfl
  rw [withoutLog_takeRest, habilities, hhitPoints]
  rfl

end Character

end Tabletop.Sheet

namespace Tabletop.Play

open Tabletop.Dice Tabletop.Sheet

/-- Whether an operation leaves the list of abilities in place. -/
def Operation.keepsRoster {σ : Type} : Operation σ → Bool
  | .addAbility _ | .removeAbility _ => false
  | _ => true

variable {σ : Type} [DieSource σ] {s : Session}

/-- **One operation.**  Only granting and removing change what a long rest would leave. -/
lemma renewed_step {op : Operation σ} (fresh : Fresh) (hs : s.character.Timed)
    (hop : op.keepsRoster = true) :
    (s.step fresh op).2.character.renewed = s.character.renewed := by
  -- One case per operation.  What an operation does to uses, countdowns, effects and hit points
  -- does not matter, since a rest sets all of them anew.
  cases h : s.accepts fresh op with
  | false => rw [step_eq_self h]
  | true =>
      cases op with
      | addAbility a => simp [Operation.keepsRoster] at hop
      | removeAbility id => simp [Operation.keepsRoster] at hop
      | useAbility id =>
          obtain ⟨t, ht, hcharacter⟩ := exists_of_commit h
          exact hcharacter ▸ Character.renewed_useAbility ht
      | activateAbility id =>
          obtain ⟨t, ht, hcharacter⟩ := exists_of_commit h
          exact hcharacter ▸ Character.renewed_activateAbility hs ht
      | deactivateAbility id =>
          obtain ⟨t, ht, hcharacter⟩ := exists_of_commit h
          exact hcharacter ▸ Character.renewed_deactivateAbility ht
      | endTurn => exact Character.renewed_endTurn hs
      | rest kind => exact Character.renewed_takeRest kind
      | attack request dice =>
          obtain ⟨spent, stamp, account, hspent, hcharacter⟩ := exists_of_attack h
          have hrenewed : spent.renewed = s.character.renewed :=
            Character.renewed_spendChosen hspent
          exact hcharacter ▸ hrenewed
      | _ => exact Character.renewed_eq _ _ _ _ rfl rfl

lemma renewed_run {ops : List (Fresh × Operation σ)} (hs : s.character.Timed)
    (hops : ∀ op ∈ ops, op.2.keepsRoster = true) :
    (s.run ops).character.renewed = s.character.renewed := by
  induction ops generalizing s with
  | nil => rfl
  | cons op ops ih =>
      obtain ⟨hop, hops⟩ := List.forall_mem_cons.1 hops
      have hstep := renewed_step op.1 hs hop
      exact (ih (hs.of_renewed hstep) hops).trans hstep

/-- **Rests absorb what came before.**  Take a sheet on which every lasting ability has a duration.
Whatever run of operations that neither grant nor remove an ability comes in between, a long rest
leaves the same sheet, its log aside: all abilities inactive with all their uses and no turns, no
effects, turn zero, and all hit points but no temporary ones.  Of two rests in a row the longer one
counts.  A short rest touches neither the hit points nor the uses of abilities that do not recharge
on it. -/
theorem rests_absorb (s : Session)
    (htimed : ∀ a ∈ s.character.abilities, a.kind = .duration → a.duration.isSome = true)
    (stamp stamp' : Stamp) :
    let c := s.character
    let long := (takeRest c .long stamp).character
    let short := (takeRest c .short stamp).character
    (∀ ops : List (Fresh × Operation σ), (∀ op ∈ ops, op.2.keepsRoster = true) →
      (takeRest (s.run ops).character .long stamp').character.withoutLog = long.withoutLog) ∧
    (long.ids = c.ids ∧
      (∀ a ∈ long.abilities,
        a.active = false ∧ (∀ u ∈ a.uses, u.current = u.max) ∧ a.turnsRemaining = 0) ∧
      long.activeEffects = [] ∧ long.turn = 0 ∧
      long.hitPoints = ⟨c.hitPoints.maximum, c.hitPoints.maximum, 0⟩) ∧
    (takeRest short .short stamp').character.withoutLog = short.withoutLog ∧
    (takeRest short .long stamp').character.withoutLog = long.withoutLog ∧
    (takeRest long .short stamp').character.withoutLog = long.withoutLog ∧
    short.hitPoints = c.hitPoints ∧
    List.Forall₂ (fun a b => b.id = a.id ∧ (a.recharge ≠ .shortRest → b.uses = a.uses))
      c.abilities short.abilities := by
  intro c long short
  refine ⟨fun ops hops => ?_, ⟨Character.ids_takeRest _ _, ?_, rfl, rfl, rfl⟩,
    Character.withoutLog_takeRest_takeRest c .short .short stamp stamp',
    Character.withoutLog_takeRest_takeRest c .short .long stamp stamp',
    Character.withoutLog_takeRest_takeRest c .long .short stamp stamp', rfl, ?_⟩
  -- A long rest gives the normal form of a sheet, and no operation of the run changes it.
  · rw [Character.withoutLog_longRest, Character.withoutLog_longRest]
    exact renewed_run htimed hops
  · intro b hb
    obtain ⟨a, -, rfl⟩ := List.mem_map.1 hb
    refine ⟨rfl, fun u hu => ?_, a.turnsRemaining_fresh⟩
    obtain ⟨v, -, rfl⟩ := Option.map_eq_some_iff.1 hu
    rfl
  · refine List.forall₂_map_right_iff.2 (List.forall₂_same.2 fun a _ => ⟨?_, fun h => ?_⟩)
    · exact a.restAbility_id .short
    · have hkept : rechargesOn a.recharge .short = false := by simpa [rechargesOn] using h
      rw [Ability.restAbility_uses, hkept, if_neg Bool.false_ne_true]

/-- A barbarian rages, is hit, attacks, rests and rages again: nothing of it can be seen after a long
rest, though much of it before. -/
theorem rests_absorb_rage :
    let s := barbarianSession
    let ops : List (Fresh × Operation ScriptedDice) :=
      [(.numbered 1, .activateAbility (numbered 0)), (.numbered 2, .takeDamage 9),
        (.numbered 3, .attack (.ofItem (numbered 200)) (.ofList [15, 6])), (.numbered 5, .endTurn),
        (.numbered 6, .rest .short), (.numbered 7, .addTemporary 4),
        (.numbered 8, .activateAbility (numbered 0)), (.numbered 9, .clearCombatLog)]
    let stamp := (Fresh.numbered 10).stamps 0
    ((∀ a ∈ s.character.abilities, a.kind = .duration → a.duration.isSome = true) ∧
      (∀ op ∈ ops, op.2.keepsRoster = true)) ∧
    (s.run ops).character.withoutLog ≠ s.character.withoutLog ∧
    (takeRest (s.run ops).character .long stamp).character.withoutLog =
      (takeRest s.character .long stamp).character.withoutLog := by
  intro s ops stamp
  have htimed : ∀ a ∈ s.character.abilities, a.kind = .duration → a.duration.isSome = true := by
    decide +kernel
  have hops : ∀ op ∈ ops, op.2.keepsRoster = true := by decide +kernel
  have hchanged : (s.run ops).character.withoutLog ≠ s.character.withoutLog := by decide +kernel
  exact ⟨⟨htimed, hops⟩, hchanged, (rests_absorb s htimed stamp stamp).1 ops hops⟩

end Tabletop.Play
