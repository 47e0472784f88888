import Mathlib.Algebra.BigOperators.Ring.Finset
import Tabletop.Proofs.Dice.Reports
import Tabletop.Proofs.Dice.Writing
import Tabletop.Proofs.Sums

/-!
# The range of a roll

Rolls are added up in 32 bits, in sums that stop at the bounds instead of wrapping.  Here they are
compared with integers.

* The sum of a group of dice is always exact: a written group has too few dice with too few sides to
  reach a bound, even with its dice doubled (`sumsTo_written`, `sumsTo_critical`).
* The total is exact as long as there are not too many terms (`toInt_componentsTotal`).  With more of
  them it may stop at a bound, and then it depends on the order of the terms.  It still lies between
  what the terms come to with the least and with the greatest results, added up in the same way
  (`inRange_of_sumsTo`): a sum that stops at the bounds is neither associative nor cancellative, but it
  is monotone in its values.
-/

namespace Tabletop.Dice

/-! ## What a term can come to -/

/-- The exact sum of die results. -/
def pips (rolls : List UInt32) : Nat :=
  (rolls.map UInt32.toNat).sum

namespace Term

/-- The least a term can come to, its dice taken so many times: added dice show ones, subtracted dice
all their sides. -/
def least (times : Nat) : Term → Int
  | .dice d =>
    match d.sign with
    | .plus => (times * d.count.toNat : Nat)
    | .minus => -(times * d.count.toNat * d.sides.toNat : Nat)
  | .flat value => value.toInt

/-- The greatest a term can come to, its dice taken so many times. -/
def greatest (times : Nat) : Term → Int
  | .dice d =>
    match d.sign with
    | .plus => (times * d.count.toNat * d.sides.toNat : Nat)
    | .minus => -(times * d.count.toNat : Nat)
  | .flat value => value.toInt

/-- A term whose dice are taken so many times, and a component that adds it up exactly. -/
inductive SumsTo (times : Nat) : Term → RollComponent → Prop
  /-- There is one result for each die.  The subtotal is the sum of the results, which is within the
  range of the dice, and the total is the subtotal under the sign. -/
  | dice {d : DiceTerm} {label : String} {rolls : List UInt32} {subtotal total : Int32}
    (length_eq : rolls.length = times * d.count.toNat) (subtotal_eq : subtotal.toInt = pips rolls)
    (number_le : times * d.count.toNat ≤ pips rolls)
    (le_sides : pips rolls ≤ times * d.count.toNat * d.sides.toNat)
    (total_eq : total.toInt = d.sign.signed (pips rolls)) :
    SumsTo times (.dice d) (.dice label d.sign rolls subtotal total)
  /-- A constant is its value. -/
  | flat (value : Int32) : SumsTo times (.flat value) (.modifier value)

end Term

/-- Whether a roll of terms, their dice taken so many times, is within range: its components are
exact, and its total lies between the sums of the least and of the greatest that the terms can come
to, both formed as totals are, from the left and stopping at the bounds. -/
structure RollResult.InRange (r : RollResult) (times : Nat) (terms : List Term) : Prop where
  components : List.Forall₂ (Term.SumsTo times) terms r.components
  least_le : satSum (terms.map fun t => saturate (t.least times)) ≤ r.total
  le_greatest : r.total ≤ satSum (terms.map fun t => saturate (t.greatest times))

/-! ## Groups of dice -/

/-- Dice show at least one each, and at most all their sides. -/
lemma pips_mem_range {rolls : List UInt32} {sides : Nat}
    (h : ∀ r ∈ rolls, 1 ≤ r.toNat ∧ r.toNat ≤ sides) :
    rolls.length ≤ pips rolls ∧ pips rolls ≤ rolls.length * sides := by
  induction rolls with
  | nil => simp [pips]
  | cons r rolls ih =>
      obtain ⟨⟨hone, hsides⟩, hrest⟩ := List.forall_mem_cons.1 h
      obtain ⟨hlow, hhigh⟩ := ih hrest
      have hpips : pips (r :: rolls) = r.toNat + pips rolls := rfl
      rw [hpips, List.length_cons, Nat.add_mul, Nat.one_mul]
      omega

/-- The sum of dice that cannot reach the bound is exact. -/
lemma toInt_subtotal {rolls : List UInt32} {sides : Nat} (h : ∀ r ∈ rolls, r.toNat ≤ sides)
    (hfew : rolls.length * sides ≤ 2147483647) : (subtotal rolls).toInt = pips rolls := by
  have hexact : ∀ r ∈ rolls, (saturate r.toNat).toInt = r.toNat := by
    intro r hr
    -- As there is a die, the bound on all of them is one on this die.
    have hsome : sides ≤ rolls.length * sides :=
      Nat.le_mul_of_pos_left sides (List.length_pos_of_mem hr)
    have hle := h r hr
    rw [toInt_saturate]
    omega
  have hsmall : ∀ v ∈ rolls.map fun r => saturate r.toNat, v.toInt.natAbs ≤ sides := by
    intro v hv
    obtain ⟨r, hr, rfl⟩ := List.mem_map.1 hv
    rw [hexact r hr]
    exact h r hr
  have hsum : exactSum (rolls.map fun r => saturate r.toNat) = pips rolls := by
    rw [exactSum, pips, List.map_map, Nat.cast_list_sum, List.map_map]
    exact congrArg List.sum (List.map_congr_left hexact)
  rw [subtotal, toInt_satSum (unsaturated_of_natAbs_le hsmall (by rwa [List.length_map])), hsum]

/-- Written groups of dice come to a million at most. -/
lemma product_le_of_admissible {d : DiceTerm} (h : (Term.dice d).Admissible) :
    d.count.toNat * d.sides.toNat ≤ 1000000 :=
  Nat.mul_le_mul h.1.2 h.2.2

namespace Term.SumsTo

variable {times : Nat} {t : Term} {c : RollComponent}

/-- What a component comes to lies between the least and the greatest that its term can come to. -/
lemma mem_range (h : t.SumsTo times c) :
    t.least times ≤ c.total.toInt ∧ c.total.toInt ≤ t.greatest times := by
  cases h with
  | flat value => exact ⟨Int.le_refl _, Int.le_refl _⟩
  | @dice d label rolls subtotal total _ _ hlow hhigh htotal =>
      rw [RollComponent.total, htotal, Term.least, Term.greatest]
      cases d.sign with
      | plus => exact ⟨Int.ofNat_le.2 hlow, Int.ofNat_le.2 hhigh⟩
      | minus =>
          exact ⟨Int.neg_le_neg (Int.ofNat_le.2 hhigh), Int.neg_le_neg (Int.ofNat_le.2 hlow)⟩

/-- Written terms come to a million at most, each time their dice are taken. -/
lemma natAbs_le (htimes : 1 ≤ times) (ht : t.Admissible) (h : t.SumsTo times c) :
    c.total.toInt.natAbs ≤ times * 1000000 := by
  cases h with
  | flat value => exact Nat.le_trans ht (Nat.le_mul_of_pos_left _ htimes)
  | @dice d label rolls subtotal total _ _ _ hhigh htotal =>
      rw [RollComponent.total, htotal, natAbs_signed]
      rw [Nat.mul_assoc] at hhigh
      exact Nat.le_trans hhigh (Nat.mul_le_mul_left times (product_le_of_admissible ht))

end Term.SumsTo

/-- On a critical, what is exact for the doubled term is exact for the term with its dice taken
twice. -/
lemma sumsTo_of_doubled {t : Term} (ht : t.Admissible) {c : RollComponent}
    (h : (Formula.doubledTerm t).SumsTo 1 c) : t.SumsTo 2 c := by
  cases t with
  | flat value =>
      cases h with
      | flat => exact .flat value
  | dice d =>
      have hcount : d.doubled.count.toNat = 2 * d.count.toNat :=
        DiceTerm.toNat_count_doubled ht.1.2
      cases h with
      | dice hlength hsum hlow hhigh htotal =>
          rw [Nat.one_mul] at hlength hlow hhigh
          exact .dice (hlength.trans hcount) hsum (hcount ▸ hlow) (hcount ▸ hhigh) htotal

/-! ## Totals -/

section Total

variable {times : Nat} {terms : List Term}

/-- Exact components give a total within range, whether or not it stops at a bound. -/
lemma inRange_of_sumsTo {r : RollResult} (h : List.Forall₂ (Term.SumsTo times) terms r.components)
    (htotal : r.total = componentsTotal r.components) : r.InRange times terms := by
  have hleast : List.Forall₂ (· ≤ ·) (terms.map fun t => saturate (t.least times))
      (r.components.map RollComponent.total) :=
    List.forall₂_map_left_iff.2 <| List.forall₂_map_right_iff.2 <|
      h.imp fun _ _ hc => saturate_le hc.mem_range.1
  have hgreatest : List.Forall₂ (· ≥ ·) (terms.map fun t => saturate (t.greatest times))
      (r.components.map RollComponent.total) :=
    List.forall₂_map_left_iff.2 <| List.forall₂_map_right_iff.2 <|
      h.imp fun _ _ hc => le_saturate hc.mem_range.2
  rw [componentsTotal] at htotal
  exact
    { components := h
      least_le := htotal ▸ satSum_mono hleast
      le_greatest := htotal ▸ satSum_mono hgreatest.flip }

/-- The total of exact components is exact, as long as the bounds of the terms do not add up to a
bound of the total. -/
lemma toInt_componentsTotal (htimes : 1 ≤ times) (hterms : ∀ t ∈ terms, t.Admissible)
    {components : List RollComponent} (h : List.Forall₂ (Term.SumsTo times) terms components)
    (hfew : terms.length * (times * 1000000) ≤ 2147483647) :
    (componentsTotal components).toInt = exactSum (components.map RollComponent.total) := by
  have hsmall : ∀ c ∈ components, c.total.toInt.natAbs ≤ times * 1000000 := by
    clear hfew
    induction h with
    | nil => exact List.forall_mem_nil _
    | cons hc _ ih =>
        obtain ⟨ht, hrest⟩ := List.forall_mem_cons.1 hterms
        exact List.forall_mem_cons.2 ⟨hc.natAbs_le htimes ht, ih hrest⟩
  refine toInt_satSum (unsaturated_of_natAbs_le (List.forall_mem_map.2 hsmall) ?_)
  rwa [List.length_map, ← h.length_eq]

end Total

/-! ## Written formulas -/

section Source

variable {σ : Type} [DieSource σ] {terms : List Term}

/-- Fair dice add up exactly, as long as they cannot reach the bound. -/
lemma sumsTo_roll (fair : IsFair σ) {t : Term} (source : σ)
    (h : ∀ d, t = .dice d → 1 ≤ d.sides.toNat ∧ d.count.toNat * d.sides.toNat ≤ 2147483647) :
    t.SumsTo 1 (t.roll source).1 := by
  cases t with
  | flat value => exact .flat value
  | dice d =>
      obtain ⟨hsides, hfew⟩ := h d rfl
      have hlength := length_rollDice d.count.toNat d.sides source
      have hrange := fun r => @inRange_of_mem_rollDice σ _ fair d.count.toNat d.sides source r hsides
      obtain ⟨hlow, hhigh⟩ := pips_mem_range hrange
      have hsum := toInt_subtotal (fun r hr => (hrange r hr).2) (hlength.symm ▸ hfew)
      rw [hlength] at hlow hhigh
      have hone : 1 * d.count.toNat = d.count.toNat := Nat.one_mul _
      exact .dice (hlength.trans hone.symm) hsum (hone.symm ▸ hlow) (hone.symm ▸ hhigh)
        (toInt_apply hsum d.sign)

lemma sumsTo_rollTerms (fair : IsFair σ) (source : σ)
    (h : ∀ d, .dice d ∈ terms → 1 ≤ d.sides.toNat ∧ d.count.toNat * d.sides.toNat ≤ 2147483647) :
    List.Forall₂ (Term.SumsTo 1) terms (rollTerms terms source).1 := by
  induction terms generalizing source with
  | nil => exact .nil
  | cons t terms ih =>
      exact .cons (sumsTo_roll fair source fun d hd => h d (hd ▸ .head _))
        (ih _ fun d hd => h d (.tail _ hd))

/-- Every component of a roll of written terms is exact. -/
lemma sumsTo_written (fair : IsFair σ) (h : ∀ t ∈ terms, t.Admissible) (source : σ) :
    List.Forall₂ (Term.SumsTo 1) terms (rollTerms terms source).1 := by
  refine sumsTo_rollTerms fair source fun d hd => ⟨(h _ hd).2.1, ?_⟩
  have hproduct := product_le_of_admissible (h _ hd)
  omega

/-- Every component of a critical roll of written terms is exact. -/
lemma sumsTo_critical (fair : IsFair σ) (h : ∀ t ∈ terms, t.Admissible) (source : σ) :
    List.Forall₂ (Term.SumsTo 2) terms
      (rollTerms (terms.map Formula.doubledTerm) source).1 := by
  have hdoubled : List.Forall₂ (Term.SumsTo 1) (terms.map Formula.doubledTerm)
      (rollTerms (terms.map Formula.doubledTerm) source).1 := by
    refine sumsTo_rollTerms fair source fun d' hd' => ?_
    obtain ⟨t, ht, hdouble⟩ := List.mem_map.1 hd'
    cases t with
    | flat value => simp [Formula.doubledTerm] at hdouble
    | dice d =>
        obtain rfl : d.doubled = d' := Term.dice.inj hdouble
        have hsides : d.doubled.sides = d.sides := rfl
        have hproduct := product_le_of_admissible (h _ ht)
        rw [DiceTerm.toNat_count_doubled (h _ ht).1.2, hsides, Nat.mul_assoc]
        exact ⟨(h _ ht).2.1, by omega⟩
  have hadmitted := (List.forall₂_and_left _ _).2 ⟨h, List.forall₂_map_left_iff.1 hdoubled⟩
  exact hadmitted.imp fun _ _ hboth => sumsTo_of_doubled hboth.1 hboth.2

/-- **Totals stay in range.**  Rolled with fair dice, a written formula has exact components: the sum
of each group of dice is at least the number of the dice and at most that number times their sides,
which is a million at most.  Its total lies between the sums of the least and of the greatest that its
terms can come to, all three formed from the left and stopping at the bounds.  With at most 2147 terms
it does not stop at a bound, and is the sum of the components.

On a critical, each group is taken twice, so that it comes to two millions at most, and the total is
exact with at most 1073 terms. -/
theorem roll_in_range (fair : IsFair σ) (text : String) (source : σ) :
    let f := Formula.parse text
    let plain := (rollText text source).1
    let critical := (rollCritical text source).1.roll
    (∀ d ∈ f.dice, d.count.toNat * d.sides.toNat ≤ 1000000) ∧
    (plain.InRange 1 f.terms ∧
      (f.terms.length ≤ 2147 →
        plain.total.toInt = exactSum (plain.components.map RollComponent.total))) ∧
    critical.InRange 2 f.terms ∧
      (f.terms.length ≤ 1073 →
        critical.total.toInt = exactSum (critical.components.map RollComponent.total)) := by
  intro f plain critical
  have hterms : ∀ t ∈ f.terms, t.Admissible := fun t => admissible_of_mem_scan
  have hplain := sumsTo_written fair hterms source
  have hcritical := sumsTo_critical fair hterms source
  refine ⟨fun d hd => product_le_of_admissible (hterms _ (Formula.mem_dice_iff.1 hd)),
    ⟨inRange_of_sumsTo hplain rfl, fun hfew => ?_⟩,
    inRange_of_sumsTo hcritical rfl, fun hfew => ?_⟩
  · exact toInt_componentsTotal (by decide) hterms hplain (by omega)
  · exact toInt_componentsTotal (by decide) hterms hcritical (by omega)

end Source

/-- A blast with a penalty, thrown once as it is and once as a critical. -/
theorem roll_in_range_blast :
    let text := "3d6 - 1d4 + 2"
    let dice := ScriptedDice.ofList [6, 2, 5, 3, 4, 1, 1]
    let plain := (rollText text dice).1
    let critical := (rollCritical text dice).1.roll
    IsFair ScriptedDice ∧ (Formula.parse text).terms.length = 3 ∧
      plain.InRange 1 [.dice ⟨3, 6, .plus⟩, .dice ⟨1, 4, .minus⟩, .flat 2] ∧
      plain.total.toInt = 13 - 3 + 2 ∧
      critical.InRange 2 [.dice ⟨3, 6, .plus⟩, .dice ⟨1, 4, .minus⟩, .flat 2] ∧
      critical.total.toInt = 21 - 2 + 2 := by
  intro text dice plain critical
  have hterms : (Formula.parse text).terms =
      [.dice ⟨3, 6, .plus⟩, .dice ⟨1, 4, .minus⟩, .flat 2] := by
    decide
  have hlength : (Formula.parse text).terms.length = 3 := congrArg List.length hterms
  obtain ⟨-, ⟨hplain, hexact⟩, hcritical, hexact'⟩ := roll_in_range isFair_scriptedDice text dice
  rw [hterms] at hplain hcritical
  refine ⟨isFair_scriptedDice, hlength, hplain, ?_, hcritical, ?_⟩
  · rw [hexact (by omega)]
    decide
  · rw [hexact' (by omega)]
    decide

end Tabletop.Dice
