import Tabletop.Proofs.Play.Life

/-!
# Uses are conserved

Limited uses are spent on three paths: an instant ability is used, a lasting one is activated, and
an attack spends every ability chosen for it, once for each time it is chosen.  They come back on
two: a long rest refills every ability, and a short rest those whose `recharge` asks for one.

`uses_conserved` is the account of a whole run.  Nothing is ever spent from an empty pool, although
`Pool.spend` would allow it: a move that spends is possible only while a use is left
(`Slot.Holds.spend`), so each takes exactly one.
-/

namespace Tabletop.Play

open Tabletop.Sheet

/-- The uses that a move spends. -/
def Move.spends : Move → Nat
  | .spend | .start _ => 1
  | _ => 0

/-- Whether a move gives the uses of an ability with the given recharge back. -/
def Move.refills (recharge : Recharge) : Move → Bool
  | .rest kind => rechargesOn recharge kind
  | _ => false

/-- Whether a move takes the ability off the roster. -/
def Move.removes : Move → Bool
  | .remove => true
  | _ => false

end Tabletop.Play

namespace Tabletop.Sheet

open Tabletop.Play

/-- A slot whose ability has the given recharge and limited uses, within their maximum. -/
def Slot.Holds (recharge : Recharge) (u : Pool) (x : Slot) : Prop :=
  ∃ a, x.ability = some a ∧ a.recharge = recharge ∧ a.uses = some u ∧ u.Bounded

namespace Slot.Holds

variable {x y : Slot} {recharge : Recharge} {u : Pool} {m : Move}

lemma unique {v : Pool} (h : x.Holds recharge u) (h' : x.Holds recharge v) : u = v := by
  obtain ⟨a, ha, -, hu, -⟩ := h
  obtain ⟨b, hb, -, hv, -⟩ := h'
  obtain rfl : a = b := Option.some.inj (ha.symm.trans hb)
  exact Option.some.inj (hu.symm.trans hv)

/-- Spending a use that is left takes exactly one. -/
lemma spend {a : Ability} (ha : a.uses = some u) (hleft : a.isOutOfUses = false) :
    u.spend.current.toNat + 1 = u.current.toNat := by
  have hne : u.current ≠ 0 := by
    simpa [Ability.isOutOfUses, ha, Pool.isEmpty] using hleft
  have hpos : u.current.toNat ≠ 0 := fun h0 => hne (UInt32.toNat_inj.1 h0)
  rw [Pool.toNat_current_spend]
  omega

/-- **One move.**  The maximum stays; a refill fills the pool up to it, and any other move takes
what it spends. -/
lemma step (hstep : Slot.Step x m y) (hm : m.removes = false) (h : x.Holds recharge u) :
    ∃ v, y.Holds recharge v ∧ v.max = u.max ∧
      (m.refills recharge = true → v.current = u.max) ∧
      (m.refills recharge = false → v.current.toNat + m.spends = u.current.toNat) := by
  obtain ⟨a, ha, hrecharge, hu, hbounded⟩ := h
  -- One case per move: two spend, a rest refills by tier, and the others leave the pool alone.
  cases hstep with
  | grant _ id b =>
      refine ⟨u, ⟨a, ?_, hrecharge, hu, hbounded⟩, rfl, nofun, fun _ => rfl⟩
      show x.ability.or _ = some a
      rw [ha, Option.some_or]
  | remove b es => simp [Move.removes] at hm
  | @spend b es hkind hleft =>
      obtain rfl := Option.some.inj ha
      have hspent : b.spendUse.uses = some u.spend := congrArg (Option.map Pool.spend) hu
      exact ⟨u.spend, ⟨_, rfl, hrecharge, hspent, Pool.bounded_spend hbounded⟩, Pool.max_spend u,
        nofun, fun _ => spend hu hleft⟩
  | @start b es effect hkind hidle hleft =>
      obtain rfl := Option.some.inj ha
      have hspent : b.spendUse.uses = some u.spend := congrArg (Option.map Pool.spend) hu
      exact ⟨u.spend, ⟨_, rfl, hrecharge, hspent, Pool.bounded_spend hbounded⟩, Pool.max_spend u,
        nofun, fun _ => spend hu hleft⟩
  | stop es hkind hactive =>
      obtain rfl := Option.some.inj ha
      exact ⟨u, ⟨_, rfl, hrecharge, hu, hbounded⟩, rfl, nofun, fun _ => rfl⟩
  | tick =>
      refine ⟨u, ⟨tickAbility a, ?_, ?_, ?_, hbounded⟩, rfl, nofun, fun _ => rfl⟩
      · show x.ability.map tickAbility = _
        rw [ha, Option.map_some]
      · rw [Ability.tickAbility_recharge, hrecharge]
      · rw [Ability.tickAbility_uses, hu]
  | rest _ kind =>
      have hafter : (x.rest kind).ability = some (restAbility kind a) := by
        show x.ability.map (restAbility kind) = _
        rw [ha, Option.map_some]
      have hsame : (restAbility kind a).recharge = recharge := by
        rw [Ability.restAbility_recharge, hrecharge]
      have huses := Ability.restAbility_uses a kind
      rw [hrecharge, hu] at huses
      cases hrefill : rechargesOn recharge kind with
      | true =>
          rw [hrefill, if_pos rfl] at huses
          refine ⟨u.refill, ⟨_, hafter, hsame, huses, Pool.bounded_refill u⟩, rfl, fun _ => rfl, ?_⟩
          simp [Move.refills, hrefill]
      | false =>
          rw [hrefill, if_neg Bool.false_ne_true] at huses
          refine ⟨u, ⟨_, hafter, hsame, huses, hbounded⟩, rfl, ?_, fun _ => rfl⟩
          simp [Move.refills, hrefill]

/-- **A whole life.**  The maximum stays, and without a refill the moves take what they spend. -/
lemma path {ms : List Move} (hpath : Slot.Path x ms y) (hms : ∀ m ∈ ms, m.removes = false)
    (h : x.Holds recharge u) :
    ∃ v, y.Holds recharge v ∧ v.max = u.max ∧
      ((∀ m ∈ ms, m.refills recharge = false) →
        v.current.toNat + (ms.map Move.spends).sum = u.current.toNat) := by
  induction hpath generalizing u with
  | nil x => exact ⟨u, h, rfl, fun _ => rfl⟩
  | @cons x y z m ms hstep hpath ih =>
      obtain ⟨hm, hrest⟩ := List.forall_mem_cons.1 hms
      obtain ⟨v, hv, hmax, -, hspends⟩ := step hstep hm h
      obtain ⟨w, hw, hmax', hsum⟩ := ih hrest hv
      refine ⟨w, hw, hmax'.trans hmax, fun hrefills => ?_⟩
      obtain ⟨hm', hrest'⟩ := List.forall_mem_cons.1 hrefills
      have hhead := hspends hm'
      have htail := hsum hrest'
      rw [List.map_cons, List.sum_cons]
      omega

end Slot.Holds

end Tabletop.Sheet

namespace Tabletop.Play

open Tabletop.Dice Tabletop.Sheet

variable {σ : Type}

/-! ## The account of a run -/

/-- The uses that an accepted operation spends: one for using or activating the ability, and one for
each time that it is chosen for an attack. -/
def Operation.spends (id : AbilityId) : Operation σ → Nat
  | .useAbility i | .activateAbility i => if i = id then 1 else 0
  | .attack request _ => request.chosen.count id
  | _ => 0

/-- Whether an operation gives back the uses of an ability with the given recharge: every long rest
does, and a short rest exactly if the ability recharges on it. -/
def Operation.refills (recharge : Recharge) : Operation σ → Bool
  | .rest .long => true
  | .rest .short => recharge == .shortRest
  | _ => false

/-- Whether an operation removes an ability. -/
def Operation.removes (id : AbilityId) : Operation σ → Bool
  | .removeAbility i => i == id
  | _ => false

/-- The uses of an ability spent in a run. -/
def Session.spent [DieSource σ] (s : Session) (id : AbilityId)
    (ops : List (Fresh × Operation σ)) : Nat :=
  ((s.accepted ops).map fun op => op.2.spends id).sum

lemma sum_spends_movesOn (id : AbilityId) (fresh : Fresh) (op : Operation σ) :
    ((op.movesOn fresh id).map Move.spends).sum = op.spends id := by
  cases op with
  | attack request dice =>
      rw [Operation.movesOn, List.map_replicate, List.sum_replicate_nat]
      exact Nat.mul_one _
  | _ =>
      simp only [Operation.movesOn, Operation.spends]
      first | rfl | (split <;> rfl)

lemma removes_of_mem_movesOn {id : AbilityId} {fresh : Fresh} {op : Operation σ} {m : Move}
    (h : m ∈ op.movesOn fresh id) : m.removes = op.removes id := by
  rcases cases_of_mem_movesOn h with ⟨a, rfl, rfl⟩ | ⟨rfl, rfl⟩ | ⟨rfl, rfl⟩ | ⟨rfl, rfl⟩ |
    ⟨rfl, rfl⟩ | ⟨rfl, rfl⟩ | ⟨kind, rfl, rfl⟩ | ⟨request, dice, rfl, rfl⟩ <;>
    simp [Move.removes, Operation.removes]

lemma refills_of_mem_movesOn {id : AbilityId} {recharge : Recharge} {fresh : Fresh}
    {op : Operation σ} {m : Move} (h : m ∈ op.movesOn fresh id) :
    m.refills recharge = op.refills recharge := by
  rcases cases_of_mem_movesOn h with ⟨a, rfl, rfl⟩ | ⟨rfl, rfl⟩ | ⟨rfl, rfl⟩ | ⟨rfl, rfl⟩ |
    ⟨rfl, rfl⟩ | ⟨rfl, rfl⟩ | ⟨kind, rfl, rfl⟩ | ⟨request, dice, rfl, rfl⟩ <;> try rfl
  cases kind <;> rfl

variable [DieSource σ] {s : Session} {id : AbilityId}

/-- The account of a run, slot by slot. -/
lemma holds_run {recharge : Recharge} {u : Pool} (h : (s.character.slot id).Holds recharge u)
    {ops : List (Fresh × Operation σ)} (hkept : ∀ op ∈ s.accepted ops, op.2.removes id = false) :
    ∃ v, ((s.run ops).character.slot id).Holds recharge v ∧ v.max = u.max ∧
      ((∀ op ∈ s.accepted ops, op.2.refills recharge = false) →
        v.current.toNat + s.spent id ops = u.current.toNat) := by
  obtain ⟨v, hv, hmax, hspends⟩ :=
    h.path (path_run s id ops) (Session.forall_life removes_of_mem_movesOn hkept)
  refine ⟨v, hv, hmax, fun hrefills => ?_⟩
  have hsum := hspends (Session.forall_life refills_of_mem_movesOn hrefills)
  rw [Session.sum_life (sum_spends_movesOn id)] at hsum
  exact hsum

/-- A refill leaves all uses. -/
lemma current_of_refill {recharge : Recharge} {u : Pool}
    (h : (s.character.slot id).Holds recharge u) {fresh : Fresh} {op : Operation σ}
    (hrefills : op.refills recharge = true) :
    ∃ v, ((s.step fresh op).2.character.slot id).Holds recharge v ∧ v.current = u.max := by
  cases op with
  | rest kind =>
      have haccepts : s.accepts fresh (.rest kind : Operation σ) = true := rfl
      obtain ⟨v, hv, hmax, hfull, -⟩ := h.step (path_step haccepts id).step rfl
      refine ⟨v, hv, hfull ?_⟩
      cases kind with
      | short => exact hrefills
      | long => rfl
  | _ => simp [Operation.refills] at hrefills

/-- **Uses are conserved.**  Take an ability with limited uses and a run, cut in two at any point
such that no operation after the cut gives its uses back.  As long as the ability is not removed,
the maximum of its uses never changes, and what is left at the end, together with what the accepted
operations after the cut have spent, is what was left at the cut; that is all the uses, if the run
was cut right after an operation that gave them back.  In particular no more than the maximum is
spent between two refills, and a rejected operation spends nothing. -/
theorem uses_conserved {s : Session} {id : AbilityId} {a : Ability} {u : Pool}
    (hfound : s.character.ability? id = some a) (hu : a.uses = some u) (hbounded : u.Bounded)
    {before since : List (Fresh × Operation σ)}
    (hkept : ∀ op ∈ s.accepted (before ++ since), op.2.removes id = false)
    (hsince : ∀ op ∈ since, op.2.refills a.recharge = false) :
    let t := s.run before
    ∃ v w, (t.character.slot id).Holds a.recharge v ∧
      ((s.run (before ++ since)).character.slot id).Holds a.recharge w ∧
      v.max = u.max ∧ w.max = u.max ∧
      w.current.toNat + t.spent id since = v.current.toNat ∧
      (before = [] → v = u) ∧
      (∀ earlier op, before = earlier ++ [op] → op.2.refills a.recharge = true →
        v.current = u.max) ∧
      t.spent id since ≤ u.max.toNat ∧
      ∀ (s' : Session) (fresh : Fresh) (op : Operation σ), s'.accepts fresh op = false →
        (s'.step fresh op).2 = s' := by
  intro t
  have hx : (s.character.slot id).Holds a.recharge u := ⟨a, hfound, rfl, hu, hbounded⟩
  -- The account is opened at the start and balanced twice, up to the cut and from the cut on.
  rw [Session.accepted_append] at hkept
  obtain ⟨hkept, hkept'⟩ := List.forall_mem_append.1 hkept
  obtain ⟨v, hv, hmax, -⟩ := holds_run hx hkept
  obtain ⟨w, hw, hmax', hspends⟩ := holds_run hv hkept'
  have hsum : w.current.toNat + t.spent id since = v.current.toNat :=
    hspends fun op hop => hsince op ((Session.accepted_sublist t since).subset hop)
  refine ⟨v, w, hv, Session.run_append s before since ▸ hw, hmax, hmax'.trans hmax, hsum,
    ?_, ?_, ?_, fun s' fresh op => step_eq_self⟩
  · rintro rfl
    exact hv.unique hx
  · rintro earlier op rfl hrefills
    -- Right after a refill the pool is full, and the slot holds a single pool.
    rw [Session.accepted_append] at hkept
    obtain ⟨hkept, -⟩ := List.forall_mem_append.1 hkept
    obtain ⟨p, hp, hmaxp, -⟩ := holds_run hx hkept
    obtain ⟨q, hq, hfull⟩ := current_of_refill hp hrefills
    rw [Session.run_append] at hv
    rw [hv.unique hq, hfull, hmaxp]
  · obtain ⟨b, -, -, -, hle⟩ := hv
    have hle' : v.current.toNat ≤ u.max.toNat := hmax ▸ UInt32.le_iff_toNat_le.1 hle
    omega

/-- Two smites before a long rest and two after it, one of them in an attack; a third one is
rejected each time, and a short rest gives none back. -/
theorem uses_conserved_smite :
    let smite : AbilityId := numbered 0
    let attack (times : Nat) : Operation ScriptedDice :=
      .attack ⟨numbered 200, List.replicate times smite, none, none⟩ (.ofList [12, 5, 4, 3])
    let before : List (Fresh × Operation ScriptedDice) :=
      [(.numbered 1, attack 2), (.numbered 9, .useAbility smite), (.numbered 10, .rest .long)]
    let since : List (Fresh × Operation ScriptedDice) :=
      [(.numbered 11, attack 1), (.numbered 19, .rest .short), (.numbered 20, attack 2),
        (.numbered 29, .useAbility smite)]
    (paladinSession.character.ability? smite = some (divineSmite smite) ∧
      (⟨2, 2⟩ : Pool).Bounded ∧
      (∀ op ∈ paladinSession.accepted (before ++ since), op.2.removes smite = false) ∧
      ∀ op ∈ since, op.2.refills (divineSmite smite).recharge = false) ∧
    (paladinSession.run before).spent smite since = 2 ∧
    ∃ v w, ((paladinSession.run before).character.slot smite).Holds .longRest v ∧
      ((paladinSession.run (before ++ since)).character.slot smite).Holds .longRest w ∧
      v = ⟨2, 2⟩ ∧ w = ⟨0, 2⟩ := by
  intro smite attack before since
  have hfound : paladinSession.character.ability? smite = some (divineSmite smite) := by
    decide +kernel
  have hbounded : (⟨2, 2⟩ : Pool).Bounded := by decide
  have hkept : ∀ op ∈ paladinSession.accepted (before ++ since), op.2.removes smite = false := by
    decide +kernel
  have hsince : ∀ op ∈ since, op.2.refills (divineSmite smite).recharge = false := by decide +kernel
  have hspent : (paladinSession.run before).spent smite since = 2 := by decide +kernel
  obtain ⟨⟨v, vmax⟩, ⟨w, wmax⟩, hv, hw, hvmax, hwmax, hsum, -, hrefill, -, -⟩ :=
    uses_conserved hfound rfl hbounded hkept hsince
  obtain rfl : vmax = 2 := hvmax
  obtain rfl : wmax = 2 := hwmax
  obtain rfl : v = 2 := hrefill [(.numbered 1, attack 2), (.numbered 9, .useAbility smite)]
    (.numbered 10, .rest .long) rfl rfl
  have hnone : w.toNat + (paladinSession.run before).spent smite since = 2 := hsum
  rw [hspent] at hnone
  obtain rfl : w = 0 := UInt32.toNat_inj.1 (Nat.add_right_cancel hnone)
  exact ⟨⟨hfound, hbounded, hkept, hsince⟩, hspent, _, _, hv, hw, rfl, rfl⟩

end Tabletop.Play
