import Tabletop.Text.Printable

/-!
# Quoted texts

A message that quotes what someone typed puts it between double quotes, with a backslash before a
quote or a backslash, the usual letters for tab, line ends and the null character, and the number in
hexadecimal for every other character that has no printed form.
-/

namespace Tabletop.Text

/-- A character inside a quoted text. -/
def quoteChar (c : Char) : List Char :=
  if c = '"' then ['\\', '"']
  else if c = '\\' then ['\\', '\\']
  else if c = '\t' then ['\\', 't']
  else if c = '\n' then ['\\', 'n']
  else if c = '\r' then ['\\', 'r']
  else if c.toNat = 0 then ['\\', '0']
  else if 0x20 ≤ c.toNat && c.toNat ≤ 0x7E then [c]
  else if isPrintable c then [c]
  else '\\' :: 'u' :: '\x7b' :: (Nat.toDigits 16 c.toNat ++ ['\x7d'])

/-- A text between double quotes, with the characters that need it escaped. -/
def quoted (text : String) : String :=
  String.ofList ('"' :: (text.toList.flatMap quoteChar ++ ['"']))

end Tabletop.Text
