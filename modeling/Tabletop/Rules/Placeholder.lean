import Tabletop.Sheet.Character
import Tabletop.Text.Blank

/-!
# Placeholders

The formula of an item may stand `@STR` and the like for a modifier of the character.  A placeholder
is an at sign and the longest run of capitals after it, if that run is the abbreviation of an
attribute; any other at sign is ordinary text.

`substitute` puts the modifiers in.  A sign in front of a placeholder, with or without blanks
between them, is folded into the value, so that `1d8 + @STR` becomes `1d8-1` for a modifier of -1.
-/

namespace Tabletop.Rules

open Tabletop.Sheet Tabletop.Text

/-- The text so far, last character first, with a modifier put at its end.  A sign that stands last,
blanks aside, is merged with that of the modifier. -/
def putModifier (value : Int) (written : List Char) : List Char :=
  match written.dropWhile isBlank with
  | sign :: before =>
    if sign = '+' ∨ sign = '-' then
      let negative := (sign == '-') != decide (value < 0)
      (digits value.natAbs).reverse ++ (if negative then '-' else '+') :: before
    else (intChars value).reverse ++ written
  | [] => (intChars value).reverse ++ written

/-- The text with its placeholders replaced, given the modifiers, the text so far, last character
first, and the text still to come. -/
def substituteFrom (modifier : Attribute → Int) (written : List Char) : List Char → List Char
  | [] => written.reverse
  | c :: rest =>
    if c = '@' then
      match Attribute.ofAbbreviation? (rest.takeWhile Char.isUpper) with
      | some a =>
        substituteFrom modifier (putModifier (modifier a) written) (rest.dropWhile Char.isUpper)
      | none => substituteFrom modifier ('@' :: written) rest
    else substituteFrom modifier (c :: written) rest
termination_by cs => cs.length
decreasing_by
  · exact Nat.lt_succ_of_le (List.dropWhile_suffix _).length_le
  · exact Nat.lt_succ_self _
  · exact Nat.lt_succ_self _

/-- A formula with its placeholders replaced by the modifiers of a character. -/
def substitute (formula : String) (c : Character) : String :=
  String.ofList (substituteFrom c.modifier [] formula.toList)

/-- Whether a list of characters occurs within another. -/
def occursIn (part : List Char) : List Char → Bool
  | [] => part.isEmpty
  | c :: cs => part.isPrefixOf (c :: cs) || occursIn part cs

/-- The attribute behind the rolls of a formula: dexterity if the formula mentions it, strength
otherwise. -/
def governingAttribute (formula : Option String) : Attribute :=
  match formula with
  | some text => if occursIn ['@', 'D', 'E', 'X'] text.toList then .dexterity else .strength
  | none => .strength

end Tabletop.Rules
