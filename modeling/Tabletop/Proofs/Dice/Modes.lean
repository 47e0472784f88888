import Mathlib.Data.List.Permutation
import Mathlib.Tactic.Lemma
import Tabletop.Dice.D20

/-!
# Several sources of advantage

Two roll modes combine to the same mode in either order.  Where more than two meet, they are combined
from the left, and what has been cancelled is forgotten: advantage and disadvantage leave nothing
behind, so that an advantage after them counts in full, while one before them does not
(`combineAll_order_dependent`).

How much a list is at the mercy of its order depends on two numbers, how often it holds advantage and
how often disadvantage.  With one of them absent, or each there once, every order gives the same mode.
With any other numbers, all of one before all of the other differs from the other way round:
`combineAll_perm_iff` says exactly this.
-/

namespace Tabletop.Dice.RollMode

/-- Any number of modes together: each is combined with those before it. -/
def combineAll (modes : List RollMode) : RollMode :=
  modes.foldl combine .normal

/-- The mode that a mode cancels. -/
def opposite : RollMode → RollMode
  | .normal => .normal
  | .advantage => .disadvantage
  | .disadvantage => .advantage

variable {m : RollMode} {modes : List RollMode}

/-! ## Two modes -/

lemma normal_combine (m : RollMode) : combine .normal m = m := by
  cases m <;> rfl

lemma combine_self (m : RollMode) : m.combine m = m := by
  cases m <;> rfl

lemma combine_opposite (m : RollMode) : m.combine m.opposite = .normal := by
  cases m <;> rfl

/-! ## Runs of one mode -/

lemma foldl_combine_replicate (n : Nat) (m : RollMode) :
    (List.replicate n m).foldl combine m = m := by
  induction n with
  | zero => rfl
  | succ n ih => rw [List.replicate_succ, List.foldl_cons, combine_self, ih]

/-- A mode counts once, however often it is there. -/
lemma combineAll_replicate (n : Nat) (m : RollMode) :
    combineAll (List.replicate n m) = if n = 0 then .normal else m := by
  cases n with
  | zero => rfl
  | succ n =>
      rw [combineAll, List.replicate_succ, List.foldl_cons, normal_combine, foldl_combine_replicate,
        if_neg n.succ_ne_zero]

/-- A run of one mode after a run of the other cancels it with its first, and what is left of it
counts. -/
lemma combineAll_runs {j k : Nat} (hj : j ≠ 0) (hk : k ≠ 0) (m : RollMode) :
    combineAll (List.replicate j m ++ List.replicate k m.opposite) =
      if k = 1 then .normal else m.opposite := by
  obtain ⟨k, rfl⟩ := Nat.exists_eq_succ_of_ne_zero hk
  have hfirst : combineAll (List.replicate j m) = m := by rw [combineAll_replicate, if_neg hj]
  have hrest := combineAll_replicate k m.opposite
  rw [combineAll] at hfirst hrest
  rw [combineAll, List.foldl_append, hfirst, List.replicate_succ, List.foldl_cons, combine_opposite,
    hrest]
  simp only [Nat.succ_eq_add_one, Nat.add_eq_right]

/-! ## Numbers of advantages and disadvantages -/

/-- Normal modes change nothing. -/
lemma combineAll_filter (modes : List RollMode) :
    combineAll (modes.filter fun m => m ≠ .normal) = combineAll modes := by
  have hstep : (fun total m => if decide (m ≠ RollMode.normal) = true then combine total m else total) =
      combine := by
    funext total m
    cases m <;> cases total <;> rfl
  rw [combineAll, List.foldl_filter, hstep, combineAll]

/-- Without its opposite, a mode counts as soon as it is there. -/
lemma combineAll_of_no_opposite (hm : m ≠ .normal) (h : modes.count m.opposite = 0) :
    combineAll modes = if modes.count m = 0 then .normal else m := by
  have honly : ∀ m' ∈ modes, decide (m' ≠ .normal) = (m' == m) := by
    intro m' hmem
    have hne : m' ≠ m.opposite := ne_of_mem_of_not_mem hmem (List.count_eq_zero.1 h)
    cases m <;> cases m' <;> simp_all [opposite]
  have hrun : (modes.filter fun m' => m' ≠ .normal) = List.replicate (modes.count m) m :=
    (List.filter_congr honly).trans (List.filter_beq m)
  rw [← combineAll_filter, hrun, combineAll_replicate]

/-- One advantage and one disadvantage cancel each other. -/
lemma combineAll_of_one_each (h : modes.count .advantage = 1) (h' : modes.count .disadvantage = 1) :
    combineAll modes = .normal := by
  have hpair : (modes.filter fun m => m ≠ .normal).Perm [.advantage, .disadvantage] := by
    rw [List.perm_iff_count]
    intro m
    cases m with
    | normal => simp [List.count_eq_zero]
    | advantage => simp [List.count_filter, h]
    | disadvantage => simp [List.count_filter, h']
  rw [← combineAll_filter]
  rcases List.perm_pair.1 hpair with hl | hl <;> rw [hl] <;> rfl

/-- The modes of a list with a given one before its opposite, and normal ones in front. -/
def sorted (modes : List RollMode) (m : RollMode) : List RollMode :=
  List.replicate (modes.count .normal) .normal ++
    (List.replicate (modes.count m) m ++ List.replicate (modes.count m.opposite) m.opposite)

lemma perm_sorted (hm : m ≠ .normal) : (sorted modes m).Perm modes := by
  rw [List.perm_iff_count]
  intro m'
  cases m <;> cases m' <;> simp_all [sorted, List.count_append, List.count_replicate, opposite]

/-- Of both modes at any number, the later wins unless it is there once. -/
lemma combineAll_sorted (h : modes.count m ≠ 0) (h' : modes.count m.opposite ≠ 0) :
    combineAll (sorted modes m) =
      if modes.count m.opposite = 1 then .normal else m.opposite := by
  rw [sorted, combineAll, List.foldl_append, foldl_combine_replicate]
  exact combineAll_runs h h' m

/-- **When the order of roll modes does not matter.**  All orders of a list combine to the same mode
exactly if the list does not hold both advantage and disadvantage, or holds each of them once. -/
theorem combineAll_perm_iff (modes : List RollMode) :
    (∀ modes', modes'.Perm modes → combineAll modes' = combineAll modes) ↔
      modes.count .advantage = 0 ∨ modes.count .disadvantage = 0 ∨
        (modes.count .advantage = 1 ∧ modes.count .disadvantage = 1) := by
  constructor
  · intro hsame
    by_contra hcounts
    obtain ⟨ha, hd, hone⟩ : modes.count .advantage ≠ 0 ∧ modes.count .disadvantage ≠ 0 ∧
        ¬(modes.count .advantage = 1 ∧ modes.count .disadvantage = 1) := by
      simpa only [not_or] using hcounts
    -- All advantages first, and all disadvantages first.
    have hfirst := combineAll_sorted (m := .advantage) ha hd
    have hlast := combineAll_sorted (m := .disadvantage) hd ha
    rw [hsame _ (perm_sorted (by decide))] at hfirst hlast
    rw [hlast] at hfirst
    -- One of the two is there more than once, so it wins when it comes last, while the other wins
    -- or is cancelled in the opposite order.
    by_cases hd' : modes.count .disadvantage = 1
    · have ha' : modes.count .advantage ≠ 1 := fun ha' => hone ⟨ha', hd'⟩
      simp [opposite, ha', hd'] at hfirst
    · split at hfirst <;> simp [opposite, hd'] at hfirst
  · rintro h modes' hperm
    have hcount := fun m => hperm.count_eq m
    rcases h with ha | hd | ⟨ha, hd⟩
    · rw [combineAll_of_no_opposite (m := .disadvantage) (by decide) ha,
        combineAll_of_no_opposite (m := .disadvantage) (by decide) ((hcount _).trans ha), hcount]
    · rw [combineAll_of_no_opposite (m := .advantage) (by decide) hd,
        combineAll_of_no_opposite (m := .advantage) (by decide) ((hcount _).trans hd), hcount]
    · rw [combineAll_of_one_each ha hd,
        combineAll_of_one_each ((hcount _).trans ha) ((hcount _).trans hd)]

/-- **Advantage after a cancellation.**  Between two advantages a disadvantage is forgotten, after both
of them it cancels them. -/
theorem combineAll_order_dependent :
    [advantage, disadvantage, advantage].Perm [advantage, advantage, disadvantage] ∧
      combineAll [advantage, disadvantage, advantage] = .advantage ∧
      combineAll [advantage, advantage, disadvantage] = .normal := by
  decide

end Tabletop.Dice.RollMode
