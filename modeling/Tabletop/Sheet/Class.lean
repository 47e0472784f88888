/-!
# Classes

The twelve classes and the sheet layout each of them suggests.
-/

namespace Tabletop.Sheet

/-- The layouts of a sheet. -/
inductive SheetTemplate
  | martial | caster | hybrid | custom
deriving DecidableEq, Repr, Inhabited

/-- The classes. -/
inductive CharacterClass
  | barbarian | bard | cleric | druid | fighter | monk | paladin | ranger | rogue | sorcerer
  | warlock | wizard
deriving DecidableEq, Repr, Inhabited

namespace CharacterClass

/-- Every class, by name. -/
def all : List CharacterClass :=
  [.barbarian, .bard, .cleric, .druid, .fighter, .monk, .paladin, .ranger, .rogue, .sorcerer,
    .warlock, .wizard]

/-- The name of a class. -/
def name : CharacterClass → String
  | .barbarian => "Barbarian"
  | .bard => "Bard"
  | .cleric => "Cleric"
  | .druid => "Druid"
  | .fighter => "Fighter"
  | .monk => "Monk"
  | .paladin => "Paladin"
  | .ranger => "Ranger"
  | .rogue => "Rogue"
  | .sorcerer => "Sorcerer"
  | .warlock => "Warlock"
  | .wizard => "Wizard"

/-- The layout suggested for a class. -/
def suggestedTemplate : CharacterClass → SheetTemplate
  | .barbarian | .fighter | .rogue | .monk => .martial
  | .wizard | .sorcerer | .cleric | .druid | .warlock => .caster
  | .bard | .paladin | .ranger => .hybrid

end CharacterClass

end Tabletop.Sheet
