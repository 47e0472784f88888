import Tabletop.Dice.Formula
import Tabletop.Dice.Source

/-!
# Rolling formulas

Rolling a formula gives one component per term, in order: for dice the single results and their sum,
for flat modifiers the value.  Dice are taken from the source term by term, and flat modifiers take
none.  Sums stop at the bounds of 32-bit integers.

## Shown forms

`RollResult.breakdown` shows every die, `RollResult.summary` the sum of each group.
-/

namespace Tabletop.Dice

open Tabletop.Text

/-- What one term of a formula came to. -/
inductive RollComponent
  /-- A group of dice: its label and sign, the single results, their sum, and the sum under the
  sign. -/
  | dice (label : String) (sign : Sign) (rolls : List UInt32) (subtotal total : Int32)
  /-- A flat modifier. -/
  | modifier (value : Int32)
deriving DecidableEq, Repr, Inhabited

/-- The contribution of a component to the total. -/
def RollComponent.total : RollComponent → Int32
  | .dice _ _ _ _ total => total
  | .modifier value => value

/-- What a formula came to. -/
structure RollResult where
  /-- The formula that was rolled. -/
  formula : String
  /-- The sum of the components. -/
  total : Int32
  /-- One component per term. -/
  components : List RollComponent
deriving DecidableEq, Repr, Inhabited

/-! ## Rolling -/

/-- The sum of die results. -/
def subtotal (rolls : List UInt32) : Int32 :=
  satSum (rolls.map fun r => saturate r.toNat)

/-- The component of a group of dice with the given results. -/
def DiceTerm.component (d : DiceTerm) (rolls : List UInt32) : RollComponent :=
  .dice d.label d.sign rolls (subtotal rolls) (d.sign.apply (subtotal rolls))

/-- The component of a term, and the source after its dice. -/
def Term.roll {σ : Type} [DieSource σ] (term : Term) (source : σ) : RollComponent × σ :=
  match term with
  | .dice d =>
    let (rolls, source) := rollDice d.count.toNat d.sides source
    (d.component rolls, source)
  | .flat value => (.modifier value, source)

/-- The components of a list of terms, and the source after their dice. -/
def rollTerms {σ : Type} [DieSource σ] (terms : List Term) (source : σ) : List RollComponent × σ :=
  match terms with
  | [] => ([], source)
  | term :: terms =>
    let (component, source) := term.roll source
    let (components, source) := rollTerms terms source
    (component :: components, source)

/-- The sum of components. -/
def componentsTotal (components : List RollComponent) : Int32 :=
  satSum (components.map RollComponent.total)

/-- The result of rolling every term once, and the source after it. -/
def Formula.roll {σ : Type} [DieSource σ] (f : Formula) (source : σ) : RollResult × σ :=
  let (components, source) := rollTerms f.terms source
  (⟨f.text, componentsTotal components, components⟩, source)

/-- The result of rolling a written formula; one without usable terms comes to zero. -/
def rollText {σ : Type} [DieSource σ] (formula : String) (source : σ) : RollResult × σ :=
  (Formula.parse formula).roll source

/-! ## Critical rolls -/

/-- A roll with every dice count doubled. -/
structure CriticalRoll where
  /-- The formula before doubling. -/
  baseFormula : String
  /-- The roll of the doubled formula. -/
  roll : RollResult
deriving DecidableEq, Repr

/-- The result of rolling a written formula with every dice count doubled. -/
def rollCritical {σ : Type} [DieSource σ] (formula : String) (source : σ) : CriticalRoll × σ :=
  let (roll, source) := (Formula.parse formula).doubled.roll source
  (⟨formula, roll⟩, source)

/-! ## Shown forms -/

/-- The minus in front of a subtracted group of dice. -/
def Sign.mark : Sign → String
  | .plus => ""
  | .minus => "-"

/-- Die results separated by commas, between brackets. -/
def rollsText (rolls : List UInt32) : String :=
  "[" ++ join ", " (rolls.map fun r => ofNat r.toNat) ++ "]"

/-- A component with every die shown. -/
def RollComponent.detail : RollComponent → String
  | .dice label sign rolls _ total =>
    sign.mark ++ label ++ rollsText rolls ++ " = " ++ ofNat total.toInt.natAbs
  | .modifier value => withSign value.toInt

/-- A component with the sum of its dice; a leading modifier has no plus. -/
def RollComponent.brief (first : Bool) : RollComponent → String
  | .dice label sign _ subtotal _ => sign.mark ++ label ++ "[" ++ ofInt subtotal.toInt ++ "]"
  | .modifier value => if first then ofInt value.toInt else withSign value.toInt

namespace RollResult

/-- Every die shown, as in `1d20[14] = 14 +5 = 19`. -/
def breakdown (r : RollResult) : String :=
  join " " (r.components.map RollComponent.detail) ++ " = " ++ ofInt r.total.toInt

/-- The sums of the dice only, as in `1d20[14] +5 = 19`. -/
def summary (r : RollResult) : String :=
  let parts := match r.components with
    | [] => []
    | c :: cs => c.brief true :: cs.map (RollComponent.brief false)
  join " " parts ++ " = " ++ ofInt r.total.toInt

/-- The result of the first component that is a lone twenty-sided die. -/
def naturalD20 (r : RollResult) : Option UInt32 :=
  r.components.findSome? fun
    | .dice label _ rolls _ _ => if label = "1d20" then rolls.head? else none
    | .modifier _ => none

end RollResult

end Tabletop.Dice
