import Tabletop.Text.Hexadecimal

/-!
# Identifiers

Characters, abilities, effects, items and log entries are told apart by 128-bit identifiers.  An
identifier is written as thirty-two lower-case hexadecimal digits in groups of 8, 4, 4, 4 and 12; it
is read in that form, without the hyphens, between braces or after `urn:uuid:`.  Digits and letters
are read in either case.

`Id` carries the sort of thing it identifies, so that an item cannot be looked up by the identifier
of an ability.
-/

namespace Tabletop

/-- A 128-bit universally unique identifier. -/
structure Uuid where
  /-- The identifier as a number, most significant digit first. -/
  bits : BitVec 128
deriving DecidableEq, Repr, Inhabited

namespace Uuid

/-- The lengths of the groups of digits of a written identifier. -/
def groups : List Nat :=
  [8, 4, 4, 4, 12]

/-- The thirty-two hexadecimal digits of an identifier. -/
def hexDigits (u : Uuid) : List Char :=
  (List.range 32).map fun i => Nat.digitChar ((u.bits.toNat >>> (4 * (31 - i))) % 16)

/-- Digits cut into groups of the given lengths, joined by hyphens. -/
def hyphenate : List Nat → List Char → List Char
  | [], _ => []
  | [n], cs => cs.take n
  | n :: m :: ns, cs => cs.take n ++ '-' :: hyphenate (m :: ns) (cs.drop n)

/-- The written form of an identifier. -/
def text (u : Uuid) : String :=
  String.ofList (hyphenate groups u.hexDigits)

/-- The identifier with the given thirty-two digits. -/
def ofHexDigits? (cs : List Char) : Option Uuid :=
  if cs.length = 32 then
    (cs.mapM Text.hexValue?).map fun values =>
      ⟨BitVec.ofNat 128 (values.foldl (fun n d => 16 * n + d) 0)⟩
  else none

/-- The digits of a text in groups of the given lengths with a hyphen between neighbours. -/
def ungroup? : List Nat → List Char → Option (List Char)
  | [], cs => if cs.isEmpty then some [] else none
  | [n], cs => if cs.length = n then some cs else none
  | n :: m :: ns, cs =>
    match cs.drop n with
    | '-' :: rest => (ungroup? (m :: ns) rest).map (cs.take n ++ ·)
    | _ => none

/-- The identifier written with hyphens. -/
def ofHyphenated? (cs : List Char) : Option Uuid :=
  (ungroup? groups cs).bind ofHexDigits?

/-- The characters in front of an identifier written as a resource name, in lower case. -/
def resourceName : List Char :=
  ['u', 'r', 'n', ':', 'u', 'u', 'i', 'd', ':']

/-- The identifier a text stands for, in any of its four written forms. -/
def parse? (s : String) : Option Uuid :=
  let cs := s.toList
  if cs.length = 32 then ofHexDigits? cs
  else if cs.length = 36 then ofHyphenated? cs
  else if cs.length = 38 && cs.head? == some '\x7b' && cs.getLast? == some '\x7d' then
    ofHyphenated? ((cs.drop 1).take 36)
  else if cs.length = 45 && (cs.take 9).map Char.toLower == resourceName then
    ofHyphenated? (cs.drop 9)
  else none

end Uuid

/-- What an identifier identifies. -/
inductive IdSort
  | character | ability | effect | item | logEntry
deriving DecidableEq, Repr

/-- An identifier of a thing of the given sort. -/
structure Id (sort : IdSort) where
  /-- The identifier itself. -/
  uuid : Uuid
deriving DecidableEq, Repr, Inhabited

/-- The written form of an identifier. -/
def Id.text {sort : IdSort} (id : Id sort) : String :=
  id.uuid.text

/-- Identifies a character. -/
abbrev CharacterId := Id .character

/-- Identifies an ability on a roster. -/
abbrev AbilityId := Id .ability

/-- Identifies an active effect. -/
abbrev EffectId := Id .effect

/-- Identifies an item. -/
abbrev ItemId := Id .item

/-- Identifies an entry of a combat log. -/
abbrev LogEntryId := Id .logEntry

end Tabletop
