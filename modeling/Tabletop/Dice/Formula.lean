import Tabletop.Dice.Term
import Tabletop.Text.Blank
import Tabletop.Text.Quoted
import Tabletop.Saturation

/-!
# Dice formulas

A formula is an ordered list of terms.  `Formula.parse` reads one from text and never fails: blanks
are ignored, the text is cut at every plus and minus, each piece takes the last sign in front of it,
and pieces that are neither dice nor numerals, or are out of bounds, are left out.  `Formula.text`
writes the terms back without blanks.

## Variants

`Formula.doubled` doubles every dice count, as a critical hit does.  `Formula.splitD20` takes the
single `1d20` out of a formula, so that it can be rolled twice; it fails on formulas without exactly
one such term, with the reason as a `DiceError`.
-/

namespace Tabletop.Dice

open Tabletop.Text

/-- An ordered list of terms. -/
structure Formula where
  /-- The terms in textual order. -/
  terms : List Term
deriving DecidableEq, Repr, Inhabited

/-- Why a formula cannot be used. -/
inductive DiceError
  /-- It has no terms. -/
  | emptyFormula (formula : String)
  /-- It has no twenty-sided die to roll twice. -/
  | missingD20 (formula : String)
  /-- It has several twenty-sided dice, or one that is not a single added die. -/
  | ambiguousD20 (formula : String)
deriving DecidableEq, Repr

/-- The message of an error. -/
def DiceError.message : DiceError → String
  | .emptyFormula formula => "Empty or invalid formula: " ++ quoted formula
  | .missingD20 formula => "Formula has no d20 to roll twice: " ++ formula
  | .ambiguousD20 formula => "Formula must contain exactly one 1d20 term: " ++ formula

/-! ## Reading -/

/-- A group of dice, if count and sides are within bounds. -/
def diceTerm? (sign : Sign) (count sides : Nat) : Option Term :=
  if 1 ≤ count ∧ count ≤ maxDiceCount ∧ 1 ≤ sides ∧ sides ≤ maxDieSides then
    some (.dice ⟨UInt32.ofNat count, UInt32.ofNat sides, sign⟩)
  else none

/-- A flat modifier, if its magnitude is within bounds. -/
def flatTerm? (sign : Sign) (magnitude : Nat) : Option Term :=
  if magnitude ≤ maxFlat then some (.flat (sign.apply (Int32.ofNat magnitude))) else none

/-- Whether a character stands between the count and the sides of a group of dice. -/
def isDieMark (c : Char) : Bool :=
  c == 'd' || c == 'D'

/-- The term a piece between two signs stands for.  Dice are an optional numeral, a `d` and a
numeral; the missing count is one.  Counts and sides are read into 32 bits without a sign, flat
modifiers into 32 bits with one; a numeral that does not fit stands for nothing. -/
def pieceTerm? (sign : Sign) (piece : List Char) : Option Term :=
  match piece.dropWhile (fun c => !isDieMark c) with
  | _ :: sides =>
    let count := piece.takeWhile fun c => !isDieMark c
    if isNumeral sides && (count.isEmpty || isNumeral count) then do
      let count ← if count.isEmpty then some 1 else numeralWithin? 4294967295 count
      let sides ← numeralWithin? 4294967295 sides
      diceTerm? sign count sides
    else none
  | [] => if isNumeral piece then (numeralWithin? 2147483647 piece).bind (flatTerm? sign) else none

/-- The terms of a text, given the sign in force and the piece read so far, last character first. -/
def scan (sign : Sign) (piece : List Char) : List Char → List Term
  | [] => (pieceTerm? sign piece.reverse).toList
  | c :: rest =>
    if c = '+' then (pieceTerm? sign piece.reverse).toList ++ scan .plus [] rest
    else if c = '-' then (pieceTerm? sign piece.reverse).toList ++ scan .minus [] rest
    else if isBlank c then scan sign piece rest
    else scan sign (c :: piece) rest

namespace Formula

/-- The formula a list of characters stands for. -/
def ofChars (cs : List Char) : Formula :=
  ⟨scan .plus [] cs⟩

/-- The formula a text stands for. -/
def parse (text : String) : Formula :=
  ofChars text.toList

/-! ## Writing -/

/-- The characters of a term; a plus is written only after another term. -/
def termChars (first : Bool) : Term → List Char
  | .dice d =>
    match d.sign with
    | .minus => '-' :: d.labelChars
    | .plus => if first then d.labelChars else '+' :: d.labelChars
  | .flat value =>
    if value.toInt < 0 then '-' :: digits value.toInt.natAbs
    else if first then digits value.toInt.natAbs
    else '+' :: digits value.toInt.natAbs

/-- The characters of a formula. -/
def chars (f : Formula) : List Char :=
  match f.terms with
  | [] => []
  | t :: ts => termChars true t ++ ts.flatMap (termChars false)

/-- The written form of a formula. -/
def text (f : Formula) : String :=
  String.ofList f.chars

/-! ## Parts and variants -/

/-- Whether a formula has no terms. -/
def isEmpty (f : Formula) : Bool :=
  f.terms.isEmpty

/-- The groups of dice of a formula, in order. -/
def dice (f : Formula) : List DiceTerm :=
  f.terms.filterMap fun
    | .dice d => some d
    | .flat _ => none

/-- The sum of the flat modifiers. -/
def flatTotal (f : Formula) : Int32 :=
  f.terms.foldl (fun total term => match term with
    | .dice _ => total
    | .flat value => total + value) 0

/-- A term with twice as many dice; flat modifiers stay as they are. -/
def doubledTerm : Term → Term
  | .dice d => .dice { d with count := saturateCount (2 * d.count.toNat) }
  | .flat value => .flat value

/-- The formula with every dice count doubled. -/
def doubled (f : Formula) : Formula :=
  ⟨f.terms.map doubledTerm⟩

/-- Whether a term consists of twenty-sided dice. -/
def isD20Term : Term → Bool
  | .dice d => d.sides == 20
  | .flat _ => false

/-- The single twenty-sided die of a formula and the formula without it.  The die has to be the only
term with twenty sides, a single one, and added. -/
def splitD20 (f : Formula) : Except DiceError (DiceTerm × Formula) :=
  if f.terms.isEmpty then .error (.emptyFormula f.text)
  else
    match f.terms.filter isD20Term with
    | [] => .error (.missingD20 f.text)
    | [.dice d] =>
      if d.isSingleD20 && d.sign == .plus then
        .ok (d, ⟨f.terms.eraseIdx (f.terms.findIdx isD20Term)⟩)
      else .error (.ambiguousD20 f.text)
    | _ => .error (.ambiguousD20 f.text)

end Formula

/-- A text is usable as a formula when it yields at least one term. -/
def validate (formula : String) : Except DiceError Unit :=
  if (Formula.parse formula).isEmpty then .error (.emptyFormula formula) else .ok ()

end Tabletop.Dice
