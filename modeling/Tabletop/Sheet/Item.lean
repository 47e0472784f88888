import Tabletop.Identifier

/-!
# Items

An item may have an action, with formulas for the attack and the damage that may mention attributes
as placeholders.  The tags an action shows to abilities are the item's tags and the kind of the
action.
-/

namespace Tabletop.Sheet

/-- The kinds of items. -/
inductive ItemKind
  | weapon | armor | consumable | tool | misc
deriving DecidableEq, Repr, Inhabited

/-- The kinds of actions. -/
inductive ActionKind
  | attack | spell | utility
deriving DecidableEq, Repr, Inhabited

/-- The tag of an action of the given kind. -/
def ActionKind.tag : ActionKind → String
  | .attack => "attack"
  | .spell => "spell"
  | .utility => "utility"

/-- What an item does when it is used. -/
structure ItemAction where
  kind : ActionKind
  /-- The formula of the attack roll. -/
  attackRoll : Option String
  /-- The formula of the damage. -/
  damageRoll : Option String
  /-- The type of the damage. -/
  damageType : Option String
deriving DecidableEq, Repr

/-- A thing a character carries. -/
structure Item where
  id : ItemId
  name : String
  kind : ItemKind
  tags : List String
  action : Option ItemAction
  equipped : Bool
deriving DecidableEq, Repr

namespace Item

/-- An item without tags and action. -/
def plain (id : ItemId) (name : String) (kind : ItemKind) : Item :=
  ⟨id, name, kind, [], none, false⟩

/-- A weapon with an attack, tagged as one. -/
def weapon (id : ItemId) (name attackRoll damageRoll damageType : String) : Item :=
  { plain id name .weapon with
    tags := ["weapon"]
    action := some ⟨.attack, some attackRoll, some damageRoll, some damageType⟩ }

/-- The formula of the item's attack roll. -/
def attackRoll (item : Item) : Option String :=
  item.action.bind ItemAction.attackRoll

/-- The formula of the item's damage. -/
def damageRoll (item : Item) : Option String :=
  item.action.bind ItemAction.damageRoll

/-- The type of the item's damage. -/
def damageType (item : Item) : Option String :=
  item.action.bind ItemAction.damageType

/-- Whether the item's action is an attack. -/
def canAttack (item : Item) : Bool :=
  match item.action with
  | some action => action.kind == .attack
  | none => false

/-- The tags an action with the item shows: the item's own, and the kind of the action unless it is
among them. -/
def actionTags (item : Item) : List String :=
  match item.action with
  | some action =>
    if item.tags.contains action.kind.tag then item.tags else item.tags ++ [action.kind.tag]
  | none => item.tags

end Item

end Tabletop.Sheet
