import Tabletop.Dice.Roll
import Tabletop.Proofs.Dice.Reading

/-!
# Drawing dice

A roll takes its dice from the source group by group, in the order of the formula, and flat modifiers
take none.  `drawDice` is that sequence of dice by itself, with every group taken so many times, and
does not know what the results are used for.

* A formula takes its groups once, and with its dice doubled twice (`drawn_roll`,
  `drawn_roll_doubled`).
* Two formulas rolled one after the other take the groups of the one and then those of the other
  (`drawDice_append`), so that the dice can be read off a text that puts them together.
-/

namespace Tabletop.Dice

/-- The die results of a component; a flat modifier has none. -/
def RollComponent.drawn? : RollComponent → Option (List UInt32)
  | .dice _ _ rolls _ _ => some rolls
  | .modifier _ => none

/-- The die results of a roll, group by group. -/
def RollResult.drawn (r : RollResult) : List (List UInt32) :=
  r.components.filterMap RollComponent.drawn?

/-- The same dice, twice as many of them. -/
def DiceTerm.doubled (d : DiceTerm) : DiceTerm :=
  { d with count := saturateCount (2 * d.count.toNat) }

lemma DiceTerm.toNat_count_doubled {d : DiceTerm} (h : d.count.toNat ≤ maxDiceCount) :
    d.doubled.count.toNat = 2 * d.count.toNat := by
  have hbound : d.count.toNat ≤ 1000 := h
  rw [DiceTerm.doubled, toNat_saturateCount]
  omega

namespace Formula

lemma dice_append (terms terms' : List Term) :
    dice ⟨terms ++ terms'⟩ = dice ⟨terms⟩ ++ dice ⟨terms'⟩ :=
  List.filterMap_append

lemma dice_doubled (f : Formula) : f.doubled.dice = f.dice.map DiceTerm.doubled := by
  unfold dice doubled
  rw [List.filterMap_map, List.map_filterMap]
  congr 1
  funext t
  cases t <;> rfl

/-- The groups of dice that are read are within bounds. -/
lemma count_le_of_mem_dice {text : String} {d : DiceTerm} (h : d ∈ (parse text).dice) :
    d.count.toNat ≤ maxDiceCount := by
  obtain ⟨t, ht, hd⟩ := List.mem_filterMap.1 h
  cases t with
  | flat value => simp at hd
  | dice d' =>
      obtain rfl := Option.some.inj hd
      have hadmissible : (Term.dice d').Admissible := admissible_of_mem_scan ht
      exact hadmissible.1.2

end Formula

section Draw

variable {σ : Type} [DieSource σ]

/-- The results of groups of dice, group by group, each taken so many times, and the source after
them. -/
def drawDice (times : Nat) (groups : List DiceTerm) (source : σ) : List (List UInt32) × σ :=
  match groups with
  | [] => ([], source)
  | d :: groups =>
    let (results, source) := rollDice (times * d.count.toNat) d.sides source
    let (rest, source) := drawDice times groups source
    (results :: rest, source)

/-- Groups are drawn one after the other. -/
lemma drawDice_append (times : Nat) (groups groups' : List DiceTerm) (source : σ) :
    drawDice times (groups ++ groups') source =
      ((drawDice times groups source).1 ++
          (drawDice times groups' (drawDice times groups source).2).1,
        (drawDice times groups' (drawDice times groups source).2).2) := by
  induction groups generalizing source with
  | nil => rfl
  | cons d groups ih => simp only [List.cons_append, drawDice, ih]

/-- Doubled groups are groups taken twice, as long as doubling them is exact. -/
lemma drawDice_doubled {groups : List DiceTerm}
    (h : ∀ d ∈ groups, d.count.toNat ≤ maxDiceCount) (source : σ) :
    drawDice 1 (groups.map DiceTerm.doubled) source = drawDice 2 groups source := by
  induction groups generalizing source with
  | nil => rfl
  | cons d groups ih =>
      obtain ⟨hd, hrest⟩ := List.forall_mem_cons.1 h
      have hcount : 1 * d.doubled.count.toNat = 2 * d.count.toNat := by
        rw [Nat.one_mul, DiceTerm.toNat_count_doubled hd]
      have hsides : d.doubled.sides = d.sides := rfl
      simp only [List.map_cons, drawDice, hcount, hsides, ih hrest]

lemma drawn_rollTerms (terms : List Term) (source : σ) :
    ((rollTerms terms source).1.filterMap RollComponent.drawn?, (rollTerms terms source).2) =
      drawDice 1 (Formula.dice ⟨terms⟩) source := by
  induction terms generalizing source with
  | nil => rfl
  | cons t terms ih =>
      cases t with
      | flat value => exact ih source
      | dice d =>
          have hdice : Formula.dice ⟨.dice d :: terms⟩ = d :: Formula.dice ⟨terms⟩ := rfl
          have hrest := ih (rollDice d.count.toNat d.sides source).2
          simp only [hdice, drawDice, Nat.one_mul, ← hrest]
          rfl

/-- A formula takes its groups of dice, in order. -/
lemma drawn_roll (f : Formula) (source : σ) :
    ((f.roll source).1.drawn, (f.roll source).2) = drawDice 1 f.dice source :=
  drawn_rollTerms f.terms source

/-- With its dice doubled, a formula that was read takes each of its groups twice. -/
lemma drawn_roll_doubled (text : String) (source : σ) :
    (((Formula.parse text).doubled.roll source).1.drawn,
        ((Formula.parse text).doubled.roll source).2) =
      drawDice 2 (Formula.parse text).dice source := by
  rw [drawn_roll, Formula.dice_doubled, drawDice_doubled fun d => Formula.count_le_of_mem_dice]

end Draw

end Tabletop.Dice
