import Tabletop.Json.Value
import Tabletop.Text.Double
import Tabletop.Text.Hexadecimal

/-!
# Reading JSON

`Json.parse?` reads a document of the JSON grammar and nothing else: no blanks but the four of the
grammar, no leading zeros, no control characters inside strings, no text after the document.  Parts
that are well-formed but have no value become `unreadable`.

The reader of values recurses with a bound on the number of steps, which is the length of the text:
an array or object costs two steps and has two brackets, and every further element one step and a
comma.
-/

namespace Tabletop.Json

open Tabletop.Text

/-- How many arrays and objects may contain one another. -/
def maxDepth : Nat := 127

/-- The text without the blanks of the grammar in front of it. -/
def skipBlanks (cs : List Char) : List Char :=
  cs.dropWhile fun c => c == ' ' || c == '\n' || c == '\r' || c == '\t'

/-! ## Strings -/

/-- A piece of a string: a character, or a 16-bit unit given by number. -/
inductive StringPiece
  | char (c : Char)
  | unit (n : Nat)
deriving Repr

/-- The character an escape of one letter stands for. -/
def escapedChar? (c : Char) : Option Char :=
  if c = '"' ∨ c = '\\' ∨ c = '/' then some c
  else if c = 'b' then some '\x08'
  else if c = 'f' then some '\x0c'
  else if c = 'n' then some '\n'
  else if c = 'r' then some '\r'
  else if c = 't' then some '\t'
  else none

/-- The number with four hexadecimal digits. -/
def fourDigits? (a b c d : Char) : Option Nat := do
  let a ← hexValue? a
  let b ← hexValue? b
  let c ← hexValue? c
  let d ← hexValue? d
  return ((a * 16 + b) * 16 + c) * 16 + d

/-- The pieces of a string after its opening quote, and what follows its closing quote. -/
def stringPieces : List Char → Option (List StringPiece × List Char)
  | [] => none
  | '"' :: rest => some ([], rest)
  | '\\' :: 'u' :: a :: b :: c :: d :: rest => do
    let n ← fourDigits? a b c d
    let (pieces, rest) ← stringPieces rest
    return (.unit n :: pieces, rest)
  | '\\' :: e :: rest => do
    let c ← escapedChar? e
    let (pieces, rest) ← stringPieces rest
    return (.char c :: pieces, rest)
  | c :: rest =>
    if c.toNat < 32 then none
    else do
      let (pieces, rest) ← stringPieces rest
      return (.char c :: pieces, rest)

/-- Whether a 16-bit unit is the first half of a surrogate pair. -/
def isHighSurrogate (n : Nat) : Bool :=
  0xD800 ≤ n && n ≤ 0xDBFF

/-- Whether a 16-bit unit is the second half of a surrogate pair. -/
def isLowSurrogate (n : Nat) : Bool :=
  0xDC00 ≤ n && n ≤ 0xDFFF

/-- The text that pieces stand for, if every half of a surrogate pair has its other half. -/
def assemble? : List StringPiece → Option (List Char)
  | [] => some []
  | .char c :: pieces => (assemble? pieces).map (c :: ·)
  | .unit high :: .unit low :: pieces =>
    if isHighSurrogate high then
      if isLowSurrogate low then
        (assemble? pieces).map
          (Char.ofNat (0x10000 + (high - 0xD800) * 0x400 + (low - 0xDC00)) :: ·)
      else none
    else if isLowSurrogate high then none
    else (assemble? (.unit low :: pieces)).map (Char.ofNat high :: ·)
  | .unit n :: pieces =>
    if isHighSurrogate n || isLowSurrogate n then none
    else (assemble? pieces).map (Char.ofNat n :: ·)

/-- The text of a string after its opening quote, if it has one, and what follows its closing
quote. -/
def string? (cs : List Char) : Option (Option String × List Char) :=
  (stringPieces cs).map fun (pieces, rest) => ((assemble? pieces).map String.ofList, rest)

/-! ## Numbers -/

/-- A run of digits at the front of a text, and what follows it. -/
def digitRun (cs : List Char) : List Char × List Char :=
  (cs.takeWhile Char.isDigit, cs.dropWhile Char.isDigit)

/-- The digits of the integer part: a zero, or digits that start with another one. -/
def integerDigits? (cs : List Char) : Option (List Char × List Char) :=
  match cs with
  | '0' :: rest => some (['0'], rest)
  | cs =>
    let (run, rest) := digitRun cs
    if run.isEmpty then none else some (run, rest)

/-- The digits after a point, if there is one. -/
def fractionDigits? (cs : List Char) : Option (Option (List Char) × List Char) :=
  match cs with
  | '.' :: rest =>
    let (run, rest) := digitRun rest
    if run.isEmpty then none else some (some run, rest)
  | cs => some (none, cs)

/-- The exponent, if there is one. -/
def exponent? (cs : List Char) : Option (Option Int × List Char) :=
  match cs with
  | c :: rest =>
    if c = 'e' ∨ c = 'E' then
      let negative := rest.head? == some '-'
      let signed := negative || rest.head? == some '+'
      let (run, rest) := digitRun (if signed then rest.drop 1 else rest)
      if run.isEmpty then none
      else
        let magnitude : Int := numeralValue run
        some (some (if negative then -magnitude else magnitude), rest)
    else some (none, cs)
  | [] => some (none, cs)

/-- The number made by the digits of a run behind a number, as long as it has 64 bits, and how many
digits are left over. -/
def leadingDigits (n : Nat) : List Char → Nat × Nat
  | [] => (n, 0)
  | c :: cs =>
    let next := 10 * n + (c.toNat - '0'.toNat)
    if next < 1 <<< 64 then leadingDigits next cs else (n, cs.length + 1)

/-- Whether a number is beyond the doubles.  Its value is the product of two doubles, the leading
digits and the power of ten; either is rounded before they are multiplied. -/
def isBeyondDoubles (whole fraction : List Char) (exponent : Int) : Bool :=
  let (significand, omitted) := leadingDigits 0 whole
  let (significand, unread) := leadingDigits significand fraction
  let scale := exponent + omitted - (fraction.length - unread : Nat)
  significand != 0 && (308 < scale ||
    0 ≤ scale && doubleBound ≤ nearestDouble significand * nearestDouble (tenTo scale.toNat))

/-- A number, and what follows it. -/
def number? (cs : List Char) : Option (Json × List Char) := do
  let negative := cs.head? == some '-'
  let start := if negative then cs.drop 1 else cs
  let (whole, rest) ← integerDigits? start
  let (fraction, rest) ← fractionDigits? rest
  let (exponent, rest) ← exponent? rest
  if isBeyondDoubles whole (fraction.getD []) (exponent.getD 0) then
    return (.unreadable, rest)
  else if fraction.isSome || exponent.isSome || (negative && whole == ['0']) then
    return (.real (String.ofList (cs.take (cs.length - rest.length))), rest)
  else
    let magnitude : Int := numeralValue whole
    return (.int (if negative then -magnitude else magnitude), rest)

/-! ## Values -/

/-- What follows a literal at the front of a text. -/
def literal? (literal : List Char) (cs : List Char) : Option (List Char) :=
  if literal.isPrefixOf cs then some (cs.drop literal.length) else none

/-- A container, unless it is nested too deeply. -/
def atDepth (depth : Nat) (j : Json) : Json :=
  if depth < maxDepth then j else .unreadable

/-- The members of an object as a value, if every name is a text. -/
def ofMembers (members : List (Option String × Json)) : Json :=
  match members.mapM fun member => member.1.map fun name => (name, member.2) with
  | some members => .obj members
  | none => .unreadable

mutual

/-- A value inside `depth` containers, and what follows it. -/
def value? (fuel depth : Nat) (cs : List Char) : Option (Json × List Char) :=
  match fuel with
  | 0 => none
  | fuel + 1 =>
    match skipBlanks cs with
    | [] => none
    | '"' :: rest => (string? rest).map fun (s, rest) =>
      (match s with | some s => .str s | none => .unreadable, rest)
    | '[' :: rest =>
      match skipBlanks rest with
      | ']' :: rest => some (atDepth depth (.arr []), rest)
      | rest => (items? fuel (depth + 1) rest).map fun (items, rest) =>
        (atDepth depth (.arr items), rest)
    | '\x7b' :: rest =>
      match skipBlanks rest with
      | '\x7d' :: rest => some (atDepth depth (.obj []), rest)
      | rest => (members? fuel (depth + 1) rest).map fun (members, rest) =>
        (atDepth depth (ofMembers members), rest)
    | 'n' :: rest => (literal? ['u', 'l', 'l'] rest).map fun rest => (.null, rest)
    | 't' :: rest => (literal? ['r', 'u', 'e'] rest).map fun rest => (.bool true, rest)
    | 'f' :: rest => (literal? ['a', 'l', 's', 'e'] rest).map fun rest => (.bool false, rest)
    | rest => number? rest

/-- The elements of an array up to its end, and what follows it. -/
def items? (fuel depth : Nat) (cs : List Char) : Option (List Json × List Char) :=
  match fuel with
  | 0 => none
  | fuel + 1 => do
    let (item, rest) ← value? fuel depth cs
    match skipBlanks rest with
    | ',' :: rest =>
      let (items, rest) ← items? fuel depth rest
      return (item :: items, rest)
    | ']' :: rest => return ([item], rest)
    | _ => none

/-- The members of an object up to its end, and what follows it. -/
def members? (fuel depth : Nat) (cs : List Char) :
    Option (List (Option String × Json) × List Char) :=
  match fuel with
  | 0 => none
  | fuel + 1 => do
    let rest ← literal? ['"'] (skipBlanks cs)
    let (name, rest) ← string? rest
    let rest ← literal? [':'] (skipBlanks rest)
    let (item, rest) ← value? fuel depth rest
    match skipBlanks rest with
    | ',' :: rest =>
      let (members, rest) ← members? fuel depth rest
      return ((name, item) :: members, rest)
    | '\x7d' :: rest => return ([(name, item)], rest)
    | _ => none

end

/-- The value of a document. -/
def parse? (text : String) : Option Json :=
  let cs := text.toList
  match value? (cs.length + 1) 0 cs with
  | some (j, rest) => if (skipBlanks rest).isEmpty then some j else none
  | none => none

end Tabletop.Json
