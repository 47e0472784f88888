import Tabletop.Text.Decimal

/-!
# Attributes

The six attributes of a character, their scores, and the modifiers that follow from the scores.  A
score that is set through `Attributes.set` stays between 1 and 30; a saved sheet may hold any score
of eight bits.  The proficiency bonus follows from the level alone.
-/

namespace Tabletop.Sheet

/-- The six attributes. -/
inductive Attribute
  | strength | dexterity | constitution | intelligence | wisdom | charisma
deriving DecidableEq, Repr, Inhabited

namespace Attribute

/-- The six attributes in sheet order. -/
def all : List Attribute :=
  [.strength, .dexterity, .constitution, .intelligence, .wisdom, .charisma]

/-- The three letters that stand for an attribute. -/
def abbreviation : Attribute → String
  | .strength => "STR"
  | .dexterity => "DEX"
  | .constitution => "CON"
  | .intelligence => "INT"
  | .wisdom => "WIS"
  | .charisma => "CHA"

/-- The name of an attribute. -/
def name : Attribute → String
  | .strength => "Strength"
  | .dexterity => "Dexterity"
  | .constitution => "Constitution"
  | .intelligence => "Intelligence"
  | .wisdom => "Wisdom"
  | .charisma => "Charisma"

/-- What stands for the modifier of an attribute in the formula of an item. -/
def placeholder (a : Attribute) : String :=
  "@" ++ a.abbreviation

/-- The attribute with the given three letters. -/
def ofAbbreviation? (letters : List Char) : Option Attribute :=
  all.find? fun a => a.abbreviation.toList == letters

end Attribute

/-- The modifier of a score: half of what it exceeds ten by, rounded down. -/
def scoreModifier (score : UInt8) : Int :=
  Int.fdiv ((score.toNat : Int) - 10) 2

/-- The proficiency bonus of a level: two, and one more for every four levels begun after the
fourth.  Levels outside of 1 to 20 have the lowest bonus. -/
def proficiencyOfLevel (level : UInt8) : Int :=
  if 1 ≤ level ∧ level ≤ 20 then 2 + ((level.toNat : Int) - 1) / 4 else 2

/-- A score brought between 1 and 30. -/
def clampScore (score : UInt8) : UInt8 :=
  if score < 1 then 1 else if 30 < score then 30 else score

/-- The scores of the six attributes. -/
structure Attributes where
  strength : UInt8
  dexterity : UInt8
  constitution : UInt8
  intelligence : UInt8
  wisdom : UInt8
  charisma : UInt8
deriving DecidableEq, Repr

namespace Attributes

/-- Average scores. -/
def default : Attributes :=
  ⟨10, 10, 10, 10, 10, 10⟩

/-- The score of an attribute. -/
def get (s : Attributes) : Attribute → UInt8
  | .strength => s.strength
  | .dexterity => s.dexterity
  | .constitution => s.constitution
  | .intelligence => s.intelligence
  | .wisdom => s.wisdom
  | .charisma => s.charisma

/-- The scores with one of them replaced, brought between 1 and 30. -/
def set (s : Attributes) (a : Attribute) (score : UInt8) : Attributes :=
  match a with
  | .strength => { s with strength := clampScore score }
  | .dexterity => { s with dexterity := clampScore score }
  | .constitution => { s with constitution := clampScore score }
  | .intelligence => { s with intelligence := clampScore score }
  | .wisdom => { s with wisdom := clampScore score }
  | .charisma => { s with charisma := clampScore score }

/-- Six scores in sheet order, each brought between 1 and 30. -/
def ofScores (strength dexterity constitution intelligence wisdom charisma : UInt8) : Attributes :=
  ⟨clampScore strength, clampScore dexterity, clampScore constitution, clampScore intelligence,
    clampScore wisdom, clampScore charisma⟩

/-- The modifier of an attribute. -/
def modifier (s : Attributes) (a : Attribute) : Int :=
  scoreModifier (s.get a)

end Attributes

end Tabletop.Sheet
