import Mathlib.Algebra.BigOperators.Ring.List
import Mathlib.Data.List.Forall2
import Tabletop.Proofs.Dice.Drawing

/-!
# What a roll reports

A roll names the dice it took and what they showed.  That is only worth something if the source saw
the same dice in the same order: one die too many, or two groups exchanged, and every later roll is
another one.  `Yields` says what a source was asked for and what it answered, die by die, and knows
neither terms nor formulas; `roll_reports` says that a roll tells exactly that.

The argument goes through the groups of `Proofs/Dice/Drawing.lean`.  A source yields the groups that
are drawn (`yields_drawDice`), a roll draws the groups of its formula, and a critical roll draws
each of them twice.
-/

namespace Tabletop.Dice

open Tabletop.Text

/-- Whether a component reports a term whose dice are taken so many times: it shows as many dice of
as many sides under the same sign, or the same constant. -/
def Term.ReportedBy (times : Nat) (t : Term) (c : RollComponent) : Prop :=
  match t, c with
  | .dice d, .dice label sign rolls _ _ =>
    label = String.ofList (digits (times * d.count.toNat) ++ 'd' :: digits d.sides.toNat) ∧
      sign = d.sign ∧ rolls.length = times * d.count.toNat
  | .flat value, .modifier shown => shown = value
  | _, _ => False

/-- The sides of the dice in groups that are taken so many times, die by die. -/
def sidesOf (times : Nat) (groups : List DiceTerm) : List UInt32 :=
  groups.flatMap fun d => List.replicate (times * d.count.toNat) d.sides

lemma length_sidesOf (times : Nat) (groups : List DiceTerm) :
    (sidesOf times groups).length = times * (groups.map fun d => d.count.toNat).sum := by
  simp [sidesOf, List.length_flatMap, List.sum_map_mul_left]

section Source

variable {σ : Type} [DieSource σ]

/-! ## What a source yields -/

/-- A source, the sides of dice that are rolled on it one after the other, the results they show,
and the source after them. -/
inductive Yields : σ → List UInt32 → List UInt32 → σ → Prop
  | nil (source : σ) : Yields source [] [] source
  | cons {sides : UInt32} {source after : σ} {asked results : List UInt32}
    (rest : Yields (DieSource.roll sides source).2 asked results after) :
    Yields source (sides :: asked) ((DieSource.roll sides source).1 :: results) after

namespace Yields

variable {source after : σ} {asked results : List UInt32}

lemma append {final : σ} {asked' results' : List UInt32} (h : Yields source asked results after)
    (h' : Yields after asked' results' final) :
    Yields source (asked ++ asked') (results ++ results') final := by
  induction h with
  | nil source => exact h'
  | cons _ ih => exact .cons (ih h')

lemma length_eq (h : Yields source asked results after) : results.length = asked.length := by
  induction h with
  | nil source => rfl
  | cons _ ih => exact congrArg (· + 1) ih

end Yields

lemma yields_rollDice (count : Nat) (sides : UInt32) (source : σ) :
    Yields source (List.replicate count sides) (rollDice count sides source).1
      (rollDice count sides source).2 := by
  induction count generalizing source with
  | zero => exact .nil source
  | succ n ih => exact .cons (ih (DieSource.roll sides source).2)

lemma yields_drawDice (times : Nat) (groups : List DiceTerm) (source : σ) :
    Yields source (sidesOf times groups) (drawDice times groups source).1.flatten
      (drawDice times groups source).2 := by
  induction groups generalizing source with
  | nil => exact .nil source
  | cons d groups ih =>
      exact (yields_rollDice (times * d.count.toNat) d.sides source).append (ih _)

/-- A script counts the dice that were taken from it. -/
lemma rolled_of_yields {dice dice' : ScriptedDice} {asked results : List UInt32}
    (h : Yields dice asked results dice') : dice'.rolled = dice.rolled + asked.length := by
  induction h with
  | nil dice => rfl
  | @cons sides dice dice' asked results _ ih =>
      have hnext : (dice.next sides).2.rolled = dice.rolled + 1 := by
        unfold ScriptedDice.next
        split <;> rfl
      have hrest : dice'.rolled = (dice.next sides).2.rolled + asked.length := ih
      rw [hrest, hnext, List.length_cons]
      omega

/-! ## What the components show -/

lemma reportedBy_roll (t : Term) (source : σ) : t.ReportedBy 1 (t.roll source).1 := by
  cases t with
  | flat value => rfl
  | dice d =>
      refine ⟨?_, rfl, ?_⟩
      · rw [Nat.one_mul]
        rfl
      · rw [Nat.one_mul]
        exact length_rollDice d.count.toNat d.sides source

/-- On a critical, the report of a doubled term is the report of the term with its dice taken
twice. -/
lemma reportedBy_doubled {t : Term} (ht : t.Admissible) {c : RollComponent}
    (h : (Formula.doubledTerm t).ReportedBy 1 c) : t.ReportedBy 2 c := by
  cases t with
  | flat value =>
      cases c with
      | modifier shown => exact h
      | dice label sign rolls sum total => exact h.elim
  | dice d =>
      cases c with
      | modifier shown => exact h.elim
      | dice label sign rolls sum total =>
          have hcount : d.doubled.count.toNat = 2 * d.count.toNat :=
            DiceTerm.toNat_count_doubled ht.1.2
          obtain ⟨hlabel, hsign, hlength⟩ := h
          refine ⟨?_, hsign, ?_⟩
          -- The label says how many dice there are, so it is doubled with them.
          · rw [hlabel, Nat.one_mul]
            exact congrArg (fun n => String.ofList (digits n ++ 'd' :: digits d.sides.toNat)) hcount
          · rw [hlength, Nat.one_mul]
            exact hcount

lemma reported_rollTerms (terms : List Term) (source : σ) :
    List.Forall₂ (Term.ReportedBy 1) terms (rollTerms terms source).1 := by
  induction terms generalizing source with
  | nil => exact .nil
  | cons t terms ih => exact .cons (reportedBy_roll t source) (ih _)

lemma reported_doubled {terms : List Term} (h : ∀ t ∈ terms, t.Admissible) (source : σ) :
    List.Forall₂ (Term.ReportedBy 2) terms
      (rollTerms (terms.map Formula.doubledTerm) source).1 := by
  have hreported := List.forall₂_map_left_iff.1
    (reported_rollTerms (terms.map Formula.doubledTerm) source)
  have hadmitted := (List.forall₂_and_left _ _).2 ⟨h, hreported⟩
  exact hadmitted.imp fun t c ⟨ht, hc⟩ => reportedBy_doubled ht hc

lemma rollTerms_append (terms terms' : List Term) (source : σ) :
    rollTerms (terms ++ terms') source =
      ((rollTerms terms source).1 ++ (rollTerms terms' (rollTerms terms source).2).1,
        (rollTerms terms' (rollTerms terms source).2).2) := by
  induction terms generalizing source with
  | nil => rfl
  | cons t terms ih => simp only [List.cons_append, rollTerms, ih]

/-- A plus puts two texts together without a trace. -/
lemma terms_append_plus (a b : String) :
    (Formula.parse (a ++ "+" ++ b)).terms = (Formula.parse a).terms ++ (Formula.parse b).terms := by
  have htext : (a ++ "+" ++ b).toList = a.toList ++ '+' :: b.toList := by simp
  rw [Formula.terms_parse, htext, Formula.terms_append_sign (.inl rfl)]
  exact congrArg ((Formula.parse a).terms ++ ·) (scan_nil_plus .plus b.toList)

variable (σ) in
/-- **Dice are drawn and reported faithfully.**  A roll has one component for each term, in order:
for dice the sign and the label of the group and one result for each die, for a constant its value.
The results, one after the other, are what the source yields for the sides of these dice in this order,
and nothing else is asked of it; so as many dice are drawn as the groups count together.  On a
critical each group is taken twice, and all else stays.  A text that puts two texts together with a
plus rolls the one and then the other, on the source as the one left it. -/
theorem roll_reports :
    (∀ (f : Formula) (source : σ),
      let rolled := f.roll source
      List.Forall₂ (Term.ReportedBy 1) f.terms rolled.1.components ∧
        Yields source (sidesOf 1 f.dice) rolled.1.drawn.flatten rolled.2 ∧
        rolled.1.drawn.flatten.length = (f.dice.map fun d => d.count.toNat).sum) ∧
    (∀ (text : String) (source : σ),
      let f := Formula.parse text
      let rolled := rollCritical text source
      List.Forall₂ (Term.ReportedBy 2) f.terms rolled.1.roll.components ∧
        Yields source (sidesOf 2 f.dice) rolled.1.roll.drawn.flatten rolled.2 ∧
        rolled.1.roll.drawn.flatten.length = 2 * (f.dice.map fun d => d.count.toNat).sum) ∧
    (∀ (f : Formula) (dice : ScriptedDice),
      (f.roll dice).2.rolled = dice.rolled + (f.dice.map fun d => d.count.toNat).sum) ∧
    ∀ (a b : String) (source : σ),
      let first := rollText a source
      let second := rollText b first.2
      let both := rollText (a ++ "+" ++ b) source
      both.1.components = first.1.components ++ second.1.components ∧ both.2 = second.2 := by
  -- For any source, since the third part asks it of scripted dice and not of those of `σ`.
  have hyields : ∀ {τ : Type} [DieSource τ] (f : Formula) (source : τ),
      Yields source (sidesOf 1 f.dice) (f.roll source).1.drawn.flatten (f.roll source).2 := by
    intro τ _ f source
    obtain ⟨hdrawn, hafter⟩ := Prod.mk.inj (drawn_roll f source)
    rw [hdrawn, hafter]
    exact yields_drawDice 1 f.dice source
  refine ⟨fun f source => ⟨reported_rollTerms f.terms source, hyields f source, ?_⟩,
    fun text source => ?_, fun f dice => ?_, fun a b source => ?_⟩
  · rw [(hyields f source).length_eq, length_sidesOf, Nat.one_mul]
  · obtain ⟨hdrawn, hafter⟩ := Prod.mk.inj (drawn_roll_doubled text source)
    have hcritical := yields_drawDice 2 (Formula.parse text).dice source
    rw [← hdrawn, ← hafter] at hcritical
    exact ⟨reported_doubled (fun t => admissible_of_mem_scan) source, hcritical,
      hcritical.length_eq.trans (length_sidesOf 2 _)⟩
  · rw [rolled_of_yields (hyields f dice), length_sidesOf, Nat.one_mul]
  · have hboth := rollTerms_append (Formula.parse a).terms (Formula.parse b).terms source
    rw [← terms_append_plus] at hboth
    exact Prod.mk.inj hboth

end Source

end Tabletop.Dice
