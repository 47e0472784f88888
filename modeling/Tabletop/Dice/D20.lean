import Tabletop.Dice.Roll

/-!
# Rolls of a twenty-sided die

An attack is decided by one twenty-sided die, which advantage and disadvantage roll twice.
`rollD20` takes that die out of a formula, rolls it first, once or twice, keeps the better or the
worse result, and adds the roll of everything else.
-/

namespace Tabletop.Dice

open Tabletop.Text

/-- How the die is rolled. -/
inductive RollMode
  /-- Once. -/
  | normal
  /-- Twice, keeping the higher result. -/
  | advantage
  /-- Twice, keeping the lower result. -/
  | disadvantage
deriving DecidableEq, Repr, Inhabited

namespace RollMode

/-- Two modes together: advantage and disadvantage cancel out, and normal adds nothing. -/
def combine : RollMode → RollMode → RollMode
  | .normal, m => m
  | m, .normal => m
  | .advantage, .disadvantage => .normal
  | .disadvantage, .advantage => .normal
  | m, _ => m

/-- The name of a mode. -/
def name : RollMode → String
  | .normal => "normal"
  | .advantage => "advantage"
  | .disadvantage => "disadvantage"

/-- How many dice a mode rolls. -/
def diceCount : RollMode → Nat
  | .normal => 1
  | .advantage => 2
  | .disadvantage => 2

/-- The result a mode keeps: the least with disadvantage, the greatest otherwise. -/
def keep (mode : RollMode) (rolls : List UInt32) : UInt32 :=
  match rolls with
  | [] => 1
  | r :: rs =>
    match mode with
    | .disadvantage => rs.foldl (fun a b => if b < a then b else a) r
    | _ => rs.foldl (fun a b => if a < b then b else a) r

end RollMode

/-- The roll of a twenty-sided die and the rest of its formula. -/
structure D20Roll where
  /-- How the die was rolled. -/
  mode : RollMode
  /-- The formula, as it was given. -/
  formula : String
  /-- The results of the die: one, or two with advantage or disadvantage. -/
  rolls : List UInt32
  /-- The result that counts. -/
  chosen : UInt32
  /-- The roll of everything else in the formula. -/
  remainder : RollResult
  /-- What is added to the die. -/
  modifier : Int32
  /-- The die and the modifier. -/
  total : Int32
deriving DecidableEq, Repr

namespace D20Roll

/-- Whether the die shows a twenty. -/
def isCritical (r : D20Roll) : Bool :=
  r.chosen == 20

/-- Whether the die shows a one. -/
def isFumble (r : D20Roll) : Bool :=
  r.chosen == 1

/-- The shown form, as in `1d20[4, 17] (advantage: 17) +5 = 22`. -/
def text (r : D20Roll) : String :=
  let kept := match r.mode with
    | .normal => ""
    | mode => " (" ++ mode.name ++ ": " ++ ofNat r.chosen.toNat ++ ")"
  "1d20" ++ rollsText r.rolls ++ kept ++ " " ++ withSign r.modifier.toInt ++ " = " ++
    ofInt r.total.toInt

end D20Roll

/-- The roll of a written formula's twenty-sided die, and the source after it.  The die is rolled
before the other dice of the formula, wherever it stands; a formula that cannot be split rolls
nothing. -/
def rollD20 {σ : Type} [DieSource σ] (formula : String) (mode : RollMode) (source : σ) :
    Except DiceError D20Roll × σ :=
  match (Formula.parse formula).splitD20 with
  | .error e => (.error e, source)
  | .ok (_, others) =>
    let (rolls, source) := rollDice mode.diceCount 20 source
    let chosen := mode.keep rolls
    let (remainder, source) := others.roll source
    (.ok {
      mode := mode
      formula := formula
      rolls := rolls
      chosen := chosen
      remainder := remainder
      modifier := remainder.total
      total := satAdd remainder.total chosen.toInt32 }, source)

end Tabletop.Dice
