import Mathlib.Data.List.Forall2
import Tabletop.Proofs.Play.Soundness

/-!
# Countdowns

An ability activated for `n` turns runs for `n` turns, and one activated for no turns ends with the
first.  While it runs, the ability and its one active effect count the same turns, whatever else
happens in the session (`countdown_of_activated`).

Two counters are carried through a run, that of the ability and that of its effect.  `Slot.Running`
says that both show the same turns and `Slot.Expired` that both are gone, so a turn is a step from
`Running` to `Running` or `Expired`, and from `Expired` to itself (`Slot.Counting.tick`).  The moves
that disturb a countdown are those of `Move.disturbs`; all the others leave both counters alone.

The log entry of a turn is computed on the roster before the turn; `entry_endTurn` compares it with
the roster after.
-/

namespace Tabletop.Play

/-- Whether a move interferes with a countdown. -/
def Move.disturbs : Move → Bool
  | .remove | .start _ | .stop | .rest _ => true
  | _ => false

/-- Whether a move is the end of a turn. -/
def Move.isTick : Move → Bool
  | .tick => true
  | _ => false

end Tabletop.Play

namespace Tabletop.Sheet

open Tabletop.Play

/-- An ability that runs, and its one effect; both have the same turns left. -/
def Slot.Running (x : Slot) (turns : Nat) : Prop :=
  ∃ a e, x = ⟨some a, [e]⟩ ∧ a.isRunning = true ∧ a.turnsRemaining.toNat = turns ∧
    e.duration.current.toNat = turns

/-- A lasting ability that has ended: it is inactive, without turns left and without effects. -/
def Slot.Expired (x : Slot) : Prop :=
  ∃ a, x = ⟨some a, []⟩ ∧ a.kind = .duration ∧ a.active = false ∧ a.turnsRemaining = 0

/-- A slot `k` turns after its ability was activated for `n` turns. -/
def Slot.Counting (n k : Nat) (x : Slot) : Prop :=
  (k < max n 1 → x.Running (n - k)) ∧ (max n 1 ≤ k → x.Expired)

/-! ## One turn -/

namespace Slot

variable {x : Slot} {n k : Nat}

/-- With more than one turn left, a turn takes one from both counters. -/
lemma Running.tick {turns : Nat} (hx : x.Sound) (h : x.Running turns) (hturns : 1 < turns) :
    x.tick.Running (turns - 1) := by
  obtain ⟨a, e, rfl, hrun, ha, he⟩ := h
  have hafter : a.turnsAfterTick.toNat = turns - 1 := by
    rw [Ability.toNat_turnsAfterTick, ha]
  have hactive : a.tick.active = true := by
    have hne : a.turnsAfterTick ≠ 0 := by
      intro h0
      rw [h0, UInt32.toNat_zero] at hafter
      omega
    simpa [Ability.tick] using hne
  rw [hx.tick_eq hrun (UInt32.toNat_inj.1 (he.trans ha.symm)), if_pos hactive]
  refine ⟨a.tick, _, rfl, ?_, ?_, hafter⟩
  · exact (Ability.isRunning_iff _).2 ⟨((Ability.isRunning_iff a).1 hrun).1, hactive⟩
  · rw [Ability.turnsRemaining_tick (hx.ability a rfl), hafter]

/-- With at most one turn left, a turn ends the ability and its effect. -/
lemma Running.expire {turns : Nat} (hx : x.Sound) (h : x.Running turns) (hturns : turns ≤ 1) :
    x.tick.Expired := by
  obtain ⟨a, e, rfl, hrun, ha, he⟩ := h
  have hafter : a.turnsAfterTick = 0 := by
    apply UInt32.toNat_inj.1
    rw [Ability.toNat_turnsAfterTick, ha, UInt32.toNat_zero]
    omega
  have hidle : a.tick.active = false := by
    simp [Ability.tick, hafter]
  rw [hx.tick_eq hrun (UInt32.toNat_inj.1 (he.trans ha.symm)), hidle, if_neg Bool.false_ne_true]
  refine ⟨a.tick, rfl, ((Ability.isRunning_iff a).1 hrun).1, hidle, ?_⟩
  rw [Ability.turnsRemaining_tick (hx.ability a rfl), hafter]

/-- A turn does nothing to an ability that has ended. -/
lemma Expired.tick (h : x.Expired) : x.tick.Expired := by
  obtain ⟨a, rfl, hkind, hidle, hturns⟩ := h
  have hrun : a.isRunning = false := by simp [Ability.isRunning, hidle]
  refine ⟨a, ?_, hkind, hidle, hturns⟩
  rw [tick_of_not_running hrun, List.filterMap_nil]

/-- **One turn.**  A turn takes a countdown one step further. -/
lemma Counting.tick (hx : x.Sound) (h : x.Counting n k) : x.tick.Counting n (k + 1) := by
  obtain ⟨hrunning, hexpired⟩ := h
  -- An activation lasts one turn at least, so a countdown of zero and one of one go on alike.
  by_cases hk : k < max n 1
  · constructor
    · intro hlt
      have hmore : 1 < n - k := by omega
      have hsub : n - (k + 1) = n - k - 1 := by omega
      rw [hsub]
      exact (hrunning hk).tick hx hmore
    · intro hle
      have hlast : n - k ≤ 1 := by omega
      exact (hrunning hk).expire hx hlast
  · constructor
    · intro hlt
      omega
    · intro _
      exact (hexpired (by omega)).tick

/-- The ability of a countdown is there and lasting, whether it runs or not. -/
lemma Counting.lasting (h : x.Counting n k) :
    ∃ a, x.ability = some a ∧ a.kind = .duration := by
  by_cases hk : k < max n 1
  · obtain ⟨a, e, rfl, hrun, -, -⟩ := h.1 hk
    exact ⟨a, rfl, ((Ability.isRunning_iff a).1 hrun).1⟩
  · obtain ⟨a, rfl, hkind, -, -⟩ := h.2 (by omega)
    exact ⟨a, rfl, hkind⟩

/-! ## A life without disturbance -/

/-- A move that does not disturb a countdown counts a turn or does nothing. -/
lemma Counting.step {y : Slot} {m : Move} (hstep : Slot.Step x m y)
    (hm : m.disturbs = false) (hx : x.Sound) (h : x.Counting n k) :
    y.Counting n (if m.isTick then k + 1 else k) := by
  cases hstep with
  | grant _ id a =>
      obtain ⟨b, hb, -⟩ := h.lasting
      obtain ⟨oa, es⟩ := x
      obtain rfl : oa = some b := hb
      exact h
  | @spend a es hinstant hleft =>
      -- A lasting ability is never spent without activation.
      obtain ⟨b, hb, hlasting⟩ := h.lasting
      obtain rfl := Option.some.inj hb
      rw [hlasting] at hinstant
      simp at hinstant
  | tick => exact h.tick hx
  | remove a es => simp [Move.disturbs] at hm
  | start es effect _ _ _ => simp [Move.disturbs] at hm
  | stop es _ _ => simp [Move.disturbs] at hm
  | rest _ kind => simp [Move.disturbs] at hm

end Slot

end Tabletop.Sheet

namespace Tabletop.Play

open Tabletop.Dice Tabletop.Sheet

lemma Slot.Path.counting {x y : Slot} {ms : List Move} {n k : Nat} (h : Slot.Path x ms y)
    (hms : ∀ m ∈ ms, m.disturbs = false) (hx : x.Sound) (hk : x.Counting n k) :
    y.Counting n (k + ms.countP Move.isTick) := by
  induction h generalizing k with
  | nil x => exact hk
  | @cons x y z m ms hstep hpath ih =>
      obtain ⟨hm, hrest⟩ := List.forall_mem_cons.1 hms
      have hnext := ih hrest (hx.step hstep) (hk.step hstep hm hx)
      have hcount : k + (m :: ms).countP Move.isTick =
          (if m.isTick then k + 1 else k) + ms.countP Move.isTick := by
        rw [List.countP_cons]
        split <;> omega
      rw [hcount]
      exact hnext

variable {σ : Type}

/-- Whether an operation, once accepted, interferes with the countdown of an ability. -/
def Operation.disturbs (id : AbilityId) : Operation σ → Bool
  | .removeAbility i | .activateAbility i | .deactivateAbility i => i == id
  | .rest _ => true
  | _ => false

/-- Whether an operation is the end of a turn. -/
def Operation.isEndTurn : Operation σ → Bool
  | .endTurn => true
  | _ => false

/-- The number of turns that end in a run. -/
def turnsEnded (ops : List (Fresh × Operation σ)) : Nat :=
  ops.countP fun op => op.2.isEndTurn

lemma disturbs_of_mem_movesOn {fresh : Fresh} {id : AbilityId} {op : Operation σ} {m : Move}
    (h : m ∈ op.movesOn fresh id) : m.disturbs = op.disturbs id := by
  rcases cases_of_mem_movesOn h with ⟨a, rfl, rfl⟩ | ⟨rfl, rfl⟩ | ⟨rfl, rfl⟩ | ⟨rfl, rfl⟩ |
    ⟨rfl, rfl⟩ | ⟨rfl, rfl⟩ | ⟨kind, rfl, rfl⟩ | ⟨request, dice, rfl, rfl⟩ <;>
    simp [Move.disturbs, Operation.disturbs]

lemma countP_isTick_movesOn (fresh : Fresh) (id : AbilityId) (op : Operation σ) :
    (op.movesOn fresh id).countP Move.isTick = if op.isEndTurn then 1 else 0 := by
  cases op with
  | attack request dice =>
      rw [Operation.movesOn, List.countP_replicate]
      rfl
  | endTurn => rfl
  | rest kind => rfl
  | _ =>
      simp only [Operation.movesOn, Operation.isEndTurn]
      first | rfl | (split <;> rfl)

variable [DieSource σ] {s : Session}

/-- The turns of an ability's life are those that end in the run. -/
lemma countP_isTick_life (s : Session) (id : AbilityId) (ops : List (Fresh × Operation σ)) :
    (s.life id ops).countP Move.isTick = turnsEnded ops := by
  induction ops generalizing s with
  | nil => rfl
  | cons op ops ih =>
      have hrest := ih (s.step op.1 op.2).2
      unfold Session.life at hrest ⊢
      unfold Session.accepted turnsEnded
      rw [List.countP_cons]
      cases h : s.accepts op.1 op.2 with
      | true =>
          simp only [if_true, List.flatMap_cons, List.countP_append]
          rw [hrest, countP_isTick_movesOn, turnsEnded, Nat.add_comm]
      | false =>
          -- The end of a turn is never rejected.
          have hop : op.2.isEndTurn = false := by
            cases hend : op.2 with
            | endTurn =>
                rw [hend] at h
                simp [Session.accepts, Session.step, Session.commit, Except.isOk,
                  Except.toBool] at h
            | _ => rfl
          simp only [Bool.false_eq_true, if_false, hop]
          exact hrest

/-! ## The log of a turn -/

/-- Whether an account of a turn lists the abilities that ran before it, in the order of the roster,
each with the turns it has left after it; those without turns left have ended. -/
def TurnReport (before after : Character) (updates : List EffectUpdate) : Prop :=
  List.Forall₂
    (fun a update => ∃ b, after.ability? a.id = some b ∧ update = ⟨a.name, b.turnsRemaining⟩ ∧
      (b.active = false ↔ b.turnsRemaining = 0))
    (before.abilities.filter Ability.isRunning) updates

lemma entry_endTurn (hs : s.character.Sound) (fresh : Fresh) :
    ∃ entry updates, (s.step fresh (.endTurn : Operation σ)).1 = .ok (.logged entry) ∧
      entry.event = .endTurn updates ∧
      TurnReport s.character (s.step fresh (.endTurn : Operation σ)).2.character updates := by
  refine ⟨_, _, rfl, rfl, ?_⟩
  rw [TurnReport, List.forall₂_map_right_iff, List.forall₂_same]
  intro a ha
  obtain ⟨hmem, hrun⟩ := List.mem_filter.1 ha
  have hslot : (s.character.slot a.id).tick.ability = some a.tick := by
    show (s.character.slot a.id).ability.map tickAbility = some a.tick
    rw [Character.slot_of_mem hs.distinct hmem, Option.map_some, tickAbility, if_pos hrun]
  have hturns : a.tick.turnsRemaining = a.turnsAfterTick :=
    Ability.turnsRemaining_tick (hs.bounded.abilities a hmem)
  refine ⟨a.tick, ?_, ?_, ?_⟩
  -- The report is made before the turn ends, and the slot afterwards is the ticked one.
  · have hend : (endTurn s.character (fresh.stamps 0)).character.slot a.id =
        (s.character.slot a.id).tick := Character.slot_endTurn _
    exact (congrArg Slot.ability hend).trans hslot
  · rw [hturns]
    rfl
  · rw [hturns]
    simp [Ability.tick]

/-- An accepted activation starts the countdown of the ability. -/
lemma counting_of_accepts {id : AbilityId} {a : Ability} {d : Pool} {fresh : Fresh}
    (hfound : s.character.ability? id = some a) (hd : a.duration = some d)
    (haccepts : s.accepts fresh (.activateAbility id : Operation σ) = true) :
    ((s.step fresh (.activateAbility id : Operation σ)).2.character.slot id).Counting
      d.max.toNat 0 := by
  have hslot := Character.slot_of_found hfound
  have hpath := path_step haccepts id
  rw [Operation.movesOn, if_pos rfl, hslot] at hpath
  generalize (s.step fresh (.activateAbility id : Operation σ)).2.character.slot id = y at hpath ⊢
  cases hpath.step with
  | start _ effect hkind hidle hleft =>
      constructor
      · intro _
        refine ⟨a.start, _, rfl, ?_, ?_, ?_⟩
        · exact (Ability.isRunning_iff _).2 ⟨hkind, rfl⟩
        · simp [Ability.turnsRemaining, Ability.start, Ability.countdown, hd, Pool.refill]
        · simp [ActiveEffect.ofAbility, Ability.start, Ability.countdown, hd, Pool.refill,
            Pool.full]
      · intro h
        omega

/-- **Countdown.**  Take an accepted activation of an ability with `n` turns on a sound sheet, and
any run after it that neither rests nor has an accepted removal, activation or deactivation of the
ability.  After `k` turns the ability runs with exactly `n - k` turns left, and so does its only
effect, as long as `k` is less than `n`, or than one if `n` is zero; from then on it is inactive,
with no turns left and no effect.  Every turn that ends on the way logs exactly the abilities that
ran before it, in the order of the roster, each with the turns it has left after it. -/
theorem countdown_of_activated {s : Session} (hs : s.character.Sound) {id : AbilityId} {a : Ability}
    {d : Pool} (hfound : s.character.ability? id = some a) (hd : a.duration = some d)
    {fresh : Fresh} (haccepts : s.accepts fresh (.activateAbility id : Operation σ) = true)
    {ops : List (Fresh × Operation σ)} (hfresh : s.FreshFor ops)
    (hquiet : ∀ op ∈ (s.step fresh (.activateAbility id : Operation σ)).2.accepted ops,
      op.2.disturbs id = false) :
    let s₀ := (s.step fresh (.activateAbility id : Operation σ)).2
    let x := (s₀.run ops).character.slot id
    let n := d.max.toNat
    let k := turnsEnded ops
    ((k < max n 1 → x.Running (n - k)) ∧ (max n 1 ≤ k → x.Expired)) ∧
    ∀ before fresh' after, ops = before ++ (fresh', .endTurn) :: after →
      let s₁ := s₀.run before
      let s₂ := (s₁.step fresh' (.endTurn : Operation σ)).2
      ∃ entry updates, (s₁.step fresh' (.endTurn : Operation σ)).1 = .ok (.logged entry) ∧
        entry.event = .endTurn updates ∧ TurnReport s₁.character s₂.character updates := by
  intro s₀ x n k
  have hstep : s.FreshFor ((fresh, (.activateAbility id : Operation σ)) :: ops) := hfresh
  have hone : s.FreshFor [(fresh, (.activateAbility id : Operation σ))] :=
    Session.FreshFor.left hstep
  have hs₀ := sound_run hs hone
  constructor
  · have hlife : ∀ m ∈ s₀.life id ops, m.disturbs = false :=
      Session.forall_life disturbs_of_mem_movesOn hquiet
    have hcount := (path_run s₀ id ops).counting hlife ((Character.sound_iff.1 hs₀).2 id)
      (counting_of_accepts hfound hd haccepts)
    rw [countP_isTick_life, Nat.zero_add] at hcount
    exact hcount
  · intro before fresh' after hops s₁ s₂
    have hbefore : s₀.FreshFor before := (hops ▸ freshFor_step hstep).left
    exact entry_endTurn (sound_run hs₀ hbefore) fresh'

/-- A fury of ten turns: with two turns ended, and rejected attempts at it in between, eight are
left; after ten it is over. -/
theorem countdown_of_activated_rage :
    let fury : Operation ScriptedDice := .activateAbility (numbered 0)
    let two : List (Fresh × Operation ScriptedDice) :=
      [(.numbered 3, .endTurn), (.numbered 4, .activateAbility (numbered 0)),
        (.numbered 5, .deactivateAbility (numbered 1)),
        (.numbered 6, .addAbility (wildShape (numbered 0))), (.numbered 7, .takeDamage 3),
        (.numbered 8, .endTurn)]
    let ten : List (Fresh × Operation ScriptedDice) := List.replicate 10 (.numbered 3, .endTurn)
    let s₀ := (barbarianSession.step (.numbered 2) fury).2
    (barbarianSession.character.Sound ∧
      barbarianSession.character.ability? (numbered 0) = some (rage (numbered 0)) ∧
      barbarianSession.accepts (.numbered 2) fury = true) ∧
    (barbarianSession.FreshFor two ∧
      (∀ op ∈ s₀.accepted two, op.2.disturbs (numbered 0) = false) ∧
      ((s₀.run two).character.slot (numbered 0)).Running 8) ∧
    (barbarianSession.FreshFor ten ∧
      (∀ op ∈ s₀.accepted ten, op.2.disturbs (numbered 0) = false) ∧
      ((s₀.run ten).character.slot (numbered 0)).Expired) := by
  intro fury two ten s₀
  have hs : barbarianSession.character.Sound := by decide +kernel
  have hfound : barbarianSession.character.ability? (numbered 0) = some (rage (numbered 0)) := by
    decide +kernel
  have haccepts : barbarianSession.accepts (.numbered 2) fury = true := by decide +kernel
  have htwo : barbarianSession.FreshFor two := by decide +kernel
  have hquiet : ∀ op ∈ s₀.accepted two, op.2.disturbs (numbered 0) = false := by decide +kernel
  have hten : barbarianSession.FreshFor ten := by decide +kernel
  have hquiet' : ∀ op ∈ s₀.accepted ten, op.2.disturbs (numbered 0) = false := by decide +kernel
  have hrunning := countdown_of_activated hs hfound rfl haccepts htwo hquiet
  have hexpired := countdown_of_activated hs hfound rfl haccepts hten hquiet'
  exact ⟨⟨hs, hfound, haccepts⟩, ⟨htwo, hquiet, hrunning.1.1 (by decide)⟩,
    ⟨hten, hquiet', hexpired.1.2 (by decide)⟩⟩

end Tabletop.Play
