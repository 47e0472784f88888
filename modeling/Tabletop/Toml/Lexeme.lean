import Tabletop.Text.Double
import Tabletop.Text.Hexadecimal
import Tabletop.Time.Date
import Tabletop.Toml.Value

/-!
# Words of a TOML document

Blanks, comments, keys, strings, numbers and times.  Every reader gives what it has read and what
follows it, or `none` where the grammar has nothing of the kind.
-/

namespace Tabletop.Toml

open Tabletop.Text

/-! ## Blanks and comments -/

/-- Whether a character is a blank within a line. -/
def isSpace (c : Char) : Bool :=
  c == ' ' || c == '\t'

/-- The text without blanks in front of it. -/
def skipSpaces (cs : List Char) : List Char :=
  cs.dropWhile isSpace

/-- Whether a character may stand in a comment: anything but controls. -/
def isCommentChar (c : Char) : Bool :=
  c == '\t' || (0x20 ≤ c.toNat && c.toNat ≠ 0x7F)

/-- The text without the comment it starts with, if it starts with one. -/
def skipComment : List Char → List Char
  | '#' :: rest => rest.dropWhile isCommentChar
  | cs => cs

/-- What follows the end of a line. -/
def lineEnd? : List Char → Option (List Char)
  | '\n' :: rest => some rest
  | '\r' :: '\n' :: rest => some rest
  | _ => none

/-- What follows the rest of a line in which only blanks and a comment are left. -/
def restOfLine? (cs : List Char) : Option (List Char) :=
  match skipComment (skipSpaces cs) with
  | [] => some []
  | rest => lineEnd? rest

/-- The text without the blanks, line ends and comments in front of it. -/
def skipLines (fuel : Nat) (cs : List Char) : List Char :=
  match fuel with
  | 0 => cs
  | fuel + 1 =>
    let rest := skipSpaces cs
    match lineEnd? (skipComment rest) with
    | some rest => skipLines fuel rest
    | none => rest

/-! ## Strings -/

/-- The character with a code point, if there is one. -/
def scalar? (n : Nat) : Option Char :=
  if n.isValidChar then some (Char.ofNat n) else none

/-- The number with the given hexadecimal digits. -/
def hexNumber? (cs : List Char) : Option Nat :=
  (cs.mapM hexValue?).map fun values => values.foldl (fun n d => 16 * n + d) 0

/-- The character an escape of one letter stands for. -/
def escapedChar? (c : Char) : Option Char :=
  if c = '"' ∨ c = '\\' then some c
  else if c = 'b' then some '\x08'
  else if c = 't' then some '\t'
  else if c = 'n' then some '\n'
  else if c = 'f' then some '\x0c'
  else if c = 'r' then some '\r'
  else none

/-- The character of an escape after its backslash, and what follows it. -/
def escape? : List Char → Option (Char × List Char)
  | 'u' :: rest =>
    if rest.length < 4 then none
    else ((hexNumber? (rest.take 4)).bind scalar?).map fun c => (c, rest.drop 4)
  | 'U' :: rest =>
    if rest.length < 8 then none
    else ((hexNumber? (rest.take 8)).bind scalar?).map fun c => (c, rest.drop 8)
  | c :: rest => (escapedChar? c).map fun c => (c, rest)
  | [] => none

/-- Whether a character may stand in a string as it is, quotes and backslashes aside. -/
def isStringChar (c : Char) : Bool :=
  isCommentChar c

/-- A string up to its closing quote, with escapes. -/
def basicString? (fuel : Nat) (cs : List Char) : Option (List Char × List Char) :=
  match fuel, cs with
  | _, '"' :: rest => some ([], rest)
  | fuel + 1, '\\' :: rest => do
    let (c, rest) ← escape? rest
    let (s, rest) ← basicString? fuel rest
    return (c :: s, rest)
  | fuel + 1, c :: rest =>
    if isStringChar c then do
      let (s, rest) ← basicString? fuel rest
      return (c :: s, rest)
    else none
  | _, _ => none

/-- A string up to its closing apostrophe, without escapes. -/
def literalString? : List Char → Option (List Char × List Char)
  | [] => none
  | c :: rest =>
    if c = '\x27' then some ([], rest)
    else if isStringChar c then do
      let (s, rest) ← literalString? rest
      return (c :: s, rest)
    else none

/-- The text without the line end it starts with, if it starts with one. -/
def skipLineEnd (cs : List Char) : List Char :=
  (lineEnd? cs).getD cs

/-- The run of a quotation mark at the front of a text. -/
def quoteRun (quote : Char) (cs : List Char) : Nat :=
  (cs.takeWhile (· == quote)).length

/-- The text without the blanks and line ends in front of it. -/
def skipBlankLines (fuel : Nat) (cs : List Char) : List Char :=
  match fuel with
  | 0 => cs
  | fuel + 1 =>
    let rest := skipSpaces cs
    match lineEnd? rest with
    | some rest => skipBlankLines fuel rest
    | none => rest

/-- A string of several lines up to its three closing quotation marks, which may follow one or two
more that belong to the string.  Escapes are read in those between double quotes only. -/
def longString? (quote : Char) (fuel : Nat) (cs : List Char) : Option (List Char × List Char) :=
  match fuel with
  | 0 => none
  | fuel + 1 =>
    let run := quoteRun quote cs
    if 3 ≤ run then
      let inner := min (run - 3) 2
      some (List.replicate inner quote, cs.drop (inner + 3))
    else
      match cs with
      | [] => none
      | c :: rest =>
        if c = '\\' ∧ quote = '"' then
          match lineEnd? (skipSpaces rest) with
          | some rest => longString? quote fuel (skipBlankLines rest.length rest)
          | none => do
            let (c, rest) ← escape? rest
            let (s, rest) ← longString? quote fuel rest
            return (c :: s, rest)
        else
          match lineEnd? cs with
          | some rest => do
            let (s, rest) ← longString? quote fuel rest
            return ('\n' :: s, rest)
          | none =>
            if isStringChar c then do
              let (s, rest) ← longString? quote fuel rest
              return (c :: s, rest)
            else none

/-- A string of any of the four kinds. -/
def string? (cs : List Char) : Option (String × List Char) :=
  let found :=
    match cs with
    | '"' :: '"' :: '"' :: rest =>
      longString? '"' (rest.length + 1) (skipLineEnd rest)
    | '"' :: rest => basicString? rest.length rest
    | '\x27' :: '\x27' :: '\x27' :: rest =>
      longString? '\x27' (rest.length + 1) (skipLineEnd rest)
    | '\x27' :: rest => literalString? rest
    | _ => none
  found.map fun (s, rest) => (String.ofList s, rest)

/-! ## Keys -/

/-- Whether a character may stand in a key without quotes. -/
def isKeyChar (c : Char) : Bool :=
  c.isAlphanum || c == '_' || c == '-'

/-- A key without dots. -/
def simpleKey? (cs : List Char) : Option (String × List Char) :=
  match cs with
  | '"' :: rest =>
    (basicString? rest.length rest).map fun (s, rest) => (String.ofList s, rest)
  | '\x27' :: rest => (literalString? rest).map fun (s, rest) => (String.ofList s, rest)
  | _ =>
    let key := cs.takeWhile isKeyChar
    if key.isEmpty then none else some (String.ofList key, cs.drop key.length)

/-- How many parts a dotted key may have at most, and how deeply values may be nested. -/
def maxParts : Nat := 79

/-- The parts of a key with dots between them, and what follows it.  Blanks may surround the
dots. -/
def keyParts? (fuel : Nat) (cs : List Char) : Option (List String × List Char) :=
  match fuel with
  | 0 => none
  | fuel + 1 => do
    let (part, rest) ← simpleKey? (skipSpaces cs)
    match skipSpaces rest with
    | '.' :: rest =>
      let (parts, rest) ← keyParts? fuel rest
      return (part :: parts, rest)
    | rest => return ([part], rest)

/-- A dotted key as the path to its table and its last part, and what follows it. -/
def key? (cs : List Char) : Option (List String × String × List Char) := do
  let (parts, rest) ← keyParts? (cs.length + 1) cs
  let last ← parts.getLast?
  if parts.length ≤ maxParts then return (parts.dropLast, last, rest) else none

/-! ## Numbers -/

/-- The digits of a numeral, in which single underscores may stand between digits. -/
def digitGroups? (isDigit : Char → Bool) : List Char → Option (List Char)
  | [] => none
  | [c] => if isDigit c then some [c] else none
  | c :: '_' :: rest => if isDigit c then (digitGroups? isDigit rest).map (c :: ·) else none
  | c :: next :: rest =>
    if isDigit c then (digitGroups? isDigit (next :: rest)).map (c :: ·) else none

/-- A sign at the front of a text, if there is one, and what follows it. -/
def splitSign : List Char → Bool × List Char
  | '-' :: rest => (true, rest)
  | '+' :: rest => (false, rest)
  | cs => (false, cs)

/-- The digits of a decimal integer without sign; a leading zero stands alone. -/
def decimalDigits? (cs : List Char) : Option (List Char) :=
  if cs.head? == some '0' && cs.length ≠ 1 then none else digitGroups? Char.isDigit cs

/-- The value of digits in some base. -/
def baseValue? (base : Nat) (cs : List Char) : Option Nat := do
  let digits ← digitGroups? (fun c => (hexValue? c).any (· < base)) cs
  let values ← digits.mapM hexValue?
  return values.foldl (fun n d => base * n + d) 0

/-- An integer of 64 bits. -/
def integer? (token : List Char) : Option Int :=
  let value : Option Int :=
    match token with
    | '0' :: 'x' :: rest => (baseValue? 16 rest).map Int.ofNat
    | '0' :: 'o' :: rest => (baseValue? 8 rest).map Int.ofNat
    | '0' :: 'b' :: rest => (baseValue? 2 rest).map Int.ofNat
    | _ =>
      let (negative, rest) := splitSign token
      (decimalDigits? rest).map fun digits =>
        if negative then -(numeralValue digits : Int) else numeralValue digits
  value.filter fun n => -9223372036854775808 ≤ n && n ≤ 9223372036854775807

/-- Whether a character starts the exponent of a number. -/
def isExponentMark (c : Char) : Bool :=
  c == 'e' || c == 'E'

/-- The exponent of a number after its mark. -/
def exponentValue? (cs : List Char) : Option Int :=
  let (negative, rest) := splitSign cs
  (digitGroups? Char.isDigit rest).map fun digits =>
    if negative then -(numeralValue digits : Int) else numeralValue digits

/-- Whether a word is a number with a fraction, an exponent or both.  Positive numbers beyond the
doubles are refused. -/
def isDecimalFloat (token : List Char) : Bool :=
  let (negative, rest) := splitSign token
  let whole := rest.takeWhile fun c => c != '.' && !isExponentMark c
  let rest := rest.drop whole.length
  let fraction := (rest.drop 1).takeWhile fun c => !isExponentMark c
  let hasFraction := rest.head? == some '.'
  let exponent := if hasFraction then rest.drop (fraction.length + 1) else rest
  let read := do
    let whole ← decimalDigits? whole
    let fraction ← if hasFraction then digitGroups? Char.isDigit fraction else some []
    let exponent ← if exponent.isEmpty then some 0 else exponentValue? (exponent.drop 1)
    return (whole ++ fraction, exponent - fraction.length)
  match read with
  | some (digits, scale) =>
    (hasFraction || !exponent.isEmpty) && (negative || !overflowsDouble digits scale)
  | none => false

/-- Whether a word is an infinity or not a number. -/
def isSpecialFloat (token : List Char) : Bool :=
  let (_, rest) := splitSign token
  rest == ['i', 'n', 'f'] || rest == ['n', 'a', 'n']

/-! ## Dates and times -/

/-- The number of exactly so many digits at the front of a text, and what follows it. -/
def fixedNumber? (width : Nat) (cs : List Char) : Option (Nat × List Char) :=
  let numeral := cs.take width
  if numeral.length = width ∧ numeral.all Char.isDigit then
    some (numeralValue numeral, cs.drop width)
  else none

/-- What follows a character at the front of a text. -/
def after? (c : Char) : List Char → Option (List Char)
  | d :: rest => if d = c then some rest else none
  | [] => none

/-- What follows a date. -/
def date? (cs : List Char) : Option (List Char) := do
  let (year, rest) ← fixedNumber? 4 cs
  let (month, rest) ← (after? '-' rest).bind (fixedNumber? 2)
  let (day, rest) ← (after? '-' rest).bind (fixedNumber? 2)
  if 1 ≤ month ∧ month ≤ 12 ∧ 1 ≤ day ∧ day ≤ Time.daysInMonth year month then some rest else none

/-- What follows the decimals of a second, if there are any. -/
def decimals? : List Char → Option (List Char)
  | '.' :: rest =>
    let run := rest.takeWhile Char.isDigit
    if run.isEmpty then none else some (rest.drop run.length)
  | cs => some cs

/-- What follows a time of day. -/
def time? (cs : List Char) : Option (List Char) := do
  let (hour, rest) ← fixedNumber? 2 cs
  let (minute, rest) ← (after? ':' rest).bind (fixedNumber? 2)
  let (second, rest) ← (after? ':' rest).bind (fixedNumber? 2)
  if hour ≤ 23 ∧ minute ≤ 59 ∧ second ≤ 60 then decimals? rest else none

/-- Whether a text is empty or an offset from universal time. -/
def isOffset (cs : List Char) : Bool :=
  match cs with
  | [] => true
  | ['Z'] => true
  | ['z'] => true
  | c :: rest =>
    let read := do
      let (hour, rest) ← fixedNumber? 2 rest
      let (minute, rest) ← (after? ':' rest).bind (fixedNumber? 2)
      if hour ≤ 23 ∧ minute ≤ 59 then some rest else none
    (c == '+' || c == '-') && read == some []

/-- Whether a word is a time of day. -/
def isTime (token : List Char) : Bool :=
  time? token == some []

/-- Whether a word is a time of day with or without an offset. -/
def isTimeWithOffset (token : List Char) : Bool :=
  (time? token).any isOffset

/-- Whether a word is a date. -/
def isDate (token : List Char) : Bool :=
  date? token == some []

/-- Whether a word is a date and a time. -/
def isDateTime (token : List Char) : Bool :=
  match date? token with
  | some (c :: rest) => (c == 'T' || c == 't') && isTimeWithOffset rest
  | _ => false

/-! ## Simple values -/

/-- Whether a character may stand in a word that is no string. -/
def isWordChar (c : Char) : Bool :=
  c.isAlphanum || c == '_' || c == '+' || c == '-' || c == '.' || c == ':'

/-- A value that is neither string nor container, and what follows it.  A date may be followed by a
time after a blank. -/
def word? (cs : List Char) : Option (Value × List Char) :=
  let token := cs.takeWhile isWordChar
  let rest := cs.drop token.length
  if token = ['t', 'r', 'u', 'e'] then some (.bool true, rest)
  else if token = ['f', 'a', 'l', 's', 'e'] then some (.bool false, rest)
  else
    match integer? token with
    | some n => some (.int n, rest)
    | none =>
      if isDecimalFloat token || isSpecialFloat token then some (.float, rest)
      else if isDateTime token || isTime token then some (.time, rest)
      else if isDate token then
        match rest with
        | ' ' :: more =>
          let next := more.takeWhile isWordChar
          if isTimeWithOffset next then some (.time, more.drop next.length) else some (.time, rest)
        | _ => some (.time, rest)
      else none

end Tabletop.Toml
