/-!
# Blank characters

The characters that separate words: those with the Unicode property `White_Space`.  Dice formulas
ignore them wherever they stand, and a sign in front of a placeholder is looked for across them.

## Trimming

`trimStart` drops the blanks a text begins with.
-/

namespace Tabletop.Text

/-- Whether a character is blank: the twenty-five characters with the property `White_Space`. -/
def isBlank (c : Char) : Bool :=
  let n := c.toNat
  (9 ≤ n && n ≤ 13) || n == 0x20 || n == 0x85 || n == 0xA0 || n == 0x1680 ||
    (0x2000 ≤ n && n ≤ 0x200A) || n == 0x2028 || n == 0x2029 || n == 0x202F || n == 0x205F ||
    n == 0x3000

/-- A text without the blanks it begins with. -/
def trimStart (cs : List Char) : List Char :=
  cs.dropWhile isBlank

end Tabletop.Text
