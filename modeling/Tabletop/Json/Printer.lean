import Tabletop.Json.Value
import Tabletop.Text.Decimal

/-!
# Writing JSON

Documents are written compactly, without blanks, or indented by two spaces a level with one member
or element a line.  Strings escape quotes, backslashes and control characters and nothing else.
-/

namespace Tabletop.Json

open Tabletop.Text

/-- A character inside a JSON string. -/
def escapeChar (c : Char) : List Char :=
  if c = '"' then ['\\', '"']
  else if c = '\\' then ['\\', '\\']
  else if c = '\n' then ['\\', 'n']
  else if c = '\r' then ['\\', 'r']
  else if c = '\t' then ['\\', 't']
  else if c.toNat = 8 then ['\\', 'b']
  else if c.toNat = 12 then ['\\', 'f']
  else if c.toNat < 32 then
    ['\\', 'u', '0', '0', Nat.digitChar (c.toNat / 16), Nat.digitChar (c.toNat % 16)]
  else [c]

/-- A string as it stands in a document. -/
def stringChars (s : String) : List Char :=
  '"' :: (s.toList.flatMap escapeChar ++ ['"'])

/-- The characters of a value that has no parts. -/
def leafChars : Json → List Char
  | .null => ['n', 'u', 'l', 'l']
  | .bool true => ['t', 'r', 'u', 'e']
  | .bool false => ['f', 'a', 'l', 's', 'e']
  | .int n => intChars n
  | .real literal => literal.toList
  | .str s => stringChars s
  | _ => ['n', 'u', 'l', 'l']

mutual

/-- The characters of a document without blanks. -/
def compactChars : Json → List Char
  | .arr items => '[' :: compactItems items
  | .obj members => '\x7b' :: compactMembers members
  | leaf => leafChars leaf

/-- The elements of an array up to its end. -/
def compactItems : List Json → List Char
  | [] => [']']
  | [item] => compactChars item ++ [']']
  | item :: next :: items => compactChars item ++ ',' :: compactItems (next :: items)

/-- The members of an object up to its end. -/
def compactMembers : List (String × Json) → List Char
  | [] => ['\x7d']
  | [member] => stringChars member.1 ++ ':' :: (compactChars member.2 ++ ['\x7d'])
  | member :: next :: members =>
    stringChars member.1 ++ ':' ::
      (compactChars member.2 ++ ',' :: compactMembers (next :: members))

end

/-- The start of a line at a level of indentation. -/
def newLine (level : Nat) : List Char :=
  '\n' :: List.replicate (2 * level) ' '

mutual

/-- The characters of an indented document at a level. -/
def prettyChars (level : Nat) : Json → List Char
  | .arr [] => ['[', ']']
  | .arr (item :: items) => '[' :: prettyItems (level + 1) (item :: items)
  | .obj [] => ['\x7b', '\x7d']
  | .obj (member :: members) => '\x7b' :: prettyMembers (level + 1) (member :: members)
  | leaf => leafChars leaf

/-- The elements of an array up to its end. -/
def prettyItems (level : Nat) : List Json → List Char
  | [] => newLine (level - 1) ++ [']']
  | [item] => newLine level ++ prettyChars level item ++ newLine (level - 1) ++ [']']
  | item :: next :: items =>
    newLine level ++ prettyChars level item ++ ',' :: prettyItems level (next :: items)

/-- The members of an object up to its end. -/
def prettyMembers (level : Nat) : List (String × Json) → List Char
  | [] => newLine (level - 1) ++ ['\x7d']
  | [member] =>
    newLine level ++ stringChars member.1 ++ ':' :: ' ' :: prettyChars level member.2 ++
      newLine (level - 1) ++ ['\x7d']
  | member :: next :: members =>
    newLine level ++ stringChars member.1 ++ ':' :: ' ' :: prettyChars level member.2 ++
      ',' :: prettyMembers level (next :: members)

end

/-- A document without blanks. -/
def compact (j : Json) : String :=
  String.ofList (compactChars j)

/-- A document with one member or element a line. -/
def pretty (j : Json) : String :=
  String.ofList (prettyChars 0 j)

end Tabletop.Json
