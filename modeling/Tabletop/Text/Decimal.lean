/-!
# Decimal numerals

Numbers are written and read in decimal.  `digits` writes a natural number, `numeralValue` reads one
of any length, and `isNumeral` says which texts are numerals: one or more of the ten ASCII digits.
`numeralWithin?` reads a numeral into a machine word, and gives up when the word would overflow.
A signed number is written with its sign only when negative (`ofInt`) or always (`withSign`).
-/

namespace Tabletop.Text

/-- The decimal digits of a natural number, without leading zeros. -/
def digits (n : Nat) : List Char :=
  Nat.toDigits 10 n

/-- A natural number in decimal. -/
def ofNat (n : Nat) : String :=
  String.ofList (digits n)

/-- The characters of an integer in decimal, with a sign only when it is negative. -/
def intChars (n : Int) : List Char :=
  if n < 0 then '-' :: digits n.natAbs else digits n.natAbs

/-- An integer in decimal, with a sign only when it is negative. -/
def ofInt (n : Int) : String :=
  String.ofList (intChars n)

/-- The characters of an integer in decimal, always with a sign; zero is written with a plus. -/
def signedChars (n : Int) : List Char :=
  (if n < 0 then '-' else '+') :: digits n.natAbs

/-- An integer in decimal, always with a sign. -/
def withSign (n : Int) : String :=
  String.ofList (signedChars n)

/-- Whether a text is a numeral: at least one character, and ASCII digits only. -/
def isNumeral (cs : List Char) : Bool :=
  !cs.isEmpty && cs.all Char.isDigit

/-- The value of a numeral of any length. -/
def numeralValue (cs : List Char) : Nat :=
  cs.foldl (fun n c => 10 * n + (c.toNat - '0'.toNat)) 0

/-- A number with one more digit behind it, unless that is more than the bound. -/
def appendDigit? (bound n : Nat) (c : Char) : Option Nat :=
  if 10 * n + (c.toNat - '0'.toNat) ≤ bound then some (10 * n + (c.toNat - '0'.toNat)) else none

/-- The value of a numeral, read digit by digit into a word that holds numbers up to the bound. -/
def numeralWithin? (bound : Nat) (cs : List Char) : Option Nat :=
  cs.foldlM (appendDigit? bound) 0

/-- A power of ten. -/
def tenTo (n : Nat) : Nat :=
  Nat.pow 10 n

/-- Texts one after the other, with a separator between neighbours. -/
def join (separator : String) : List String → String
  | [] => ""
  | [text] => text
  | text :: next :: rest => text ++ separator ++ join separator (next :: rest)

end Tabletop.Text
