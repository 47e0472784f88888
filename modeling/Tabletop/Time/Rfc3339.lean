import Tabletop.Text.Blank
import Tabletop.Text.Decimal
import Tabletop.Time.Instant

/-!
# The written form of instants

Instants are written in the RFC 3339 format, in universal time with a `Z`, and with as many decimals
as they need: none, three, six or nine.  Reading is more lenient than writing: parts may have one
digit, blanks may stand in front of parts and separators, any offset from universal time is accepted
and decimals beyond the ninth are dropped.
-/

namespace Tabletop.Time

open Tabletop.Text

/-! ## Writing -/

/-- A number padded with zeros to a width. -/
def padded (width n : Nat) : List Char :=
  let cs := digits n
  List.replicate (width - cs.length) '0' ++ cs

/-- A year: four digits from 0 to 9999, and a sign and at least four digits outside of that. -/
def yearChars (year : Int) : List Char :=
  if 0 ≤ year ∧ year ≤ 9999 then padded 4 year.toNat
  else (if year < 0 then '-' else '+') :: padded 4 year.natAbs

/-- The decimals of a second, in groups of three and as few as are exact. -/
def decimalChars (nano : Nat) : List Char :=
  if nano = 0 then []
  else if nano % 1000000 = 0 then '.' :: padded 3 (nano / 1000000)
  else if nano % 1000 = 0 then '.' :: padded 6 (nano / 1000)
  else '.' :: padded 9 nano

/-- The written form of an instant. -/
def Instant.text (t : Instant) : String :=
  let second := t.second % 60 + t.nano / 1000000000
  String.ofList <|
    yearChars t.date.year ++ '-' :: padded 2 t.date.month ++ '-' :: padded 2 t.date.day ++
      'T' :: padded 2 (t.second / 3600) ++ ':' :: padded 2 (t.second / 60 % 60) ++
      ':' :: padded 2 second ++ decimalChars (t.nano % 1000000000) ++ ['Z']

/-! ## Reading -/

/-- A numeral of at most `width` digits at the front of a text, and what follows it. -/
def number? (width : Nat) (cs : List Char) : Option (Nat × List Char) :=
  let numeral := (cs.take width).takeWhile Char.isDigit
  if numeral.isEmpty then none else some (numeralValue numeral, cs.drop numeral.length)

/-- A numeral of at most two digits after blanks. -/
def part? (cs : List Char) : Option (Nat × List Char) :=
  number? 2 (trimStart cs)

/-- A year after blanks: any number of digits after a sign, at most four without one. -/
def year? (cs : List Char) : Option (Int × List Char) :=
  match trimStart cs with
  | '-' :: rest => (number? rest.length rest).map fun (n, r) => (-(n : Int), r)
  | '+' :: rest => (number? rest.length rest).map fun (n, r) => ((n : Int), r)
  | rest => (number? 4 rest).map fun (n, r) => ((n : Int), r)

/-- What follows a separator that may have blanks in front of it. -/
def separator? (c : Char) (cs : List Char) : Option (List Char) :=
  match trimStart cs with
  | d :: rest => if d = c then some rest else none
  | [] => none

/-- The nanoseconds after a decimal point, if there is one: nine digits count, the others are
dropped. -/
def nanoseconds? : List Char → Option (Nat × List Char)
  | '.' :: rest =>
    (number? 9 rest).map fun (n, _) =>
      let kept := ((rest.take 9).takeWhile Char.isDigit).length
      (n * tenTo (9 - kept), rest.dropWhile Char.isDigit)
  | cs => some (0, cs)

/-- The offset from universal time in seconds: `UTC`, `Z`, or a sign, two digits of hours and two of
minutes. -/
def offset? (cs : List Char) : Option (Int × List Char) :=
  if (cs.take 3).map Char.toLower = ['u', 't', 'c'] then some (0, cs.drop 3)
  else
    match cs with
    | [] => none
    | c :: rest =>
      if c = 'Z' ∨ c = 'z' then some (0, rest)
      else if c = '+' ∨ c = '-' ∨ c.toNat = 0x2212 then
        match rest with
        | h₁ :: h₂ :: rest =>
          match rest.dropWhile (fun c => c == ':' || isBlank c) with
          | m₁ :: m₂ :: rest =>
            if h₁.isDigit && h₂.isDigit && m₁.isDigit && m₂.isDigit && m₁ ≤ '5' then
              let hours := numeralValue [h₁, h₂]
              let seconds : Int := hours * 3600 + numeralValue [m₁, m₂] * 60
              if hours < 24 then some (if c = '+' then seconds else -seconds, rest) else none
            else none
          | _ => none
        | _ => none
      else none

/-- The instant a text stands for. -/
def Instant.parse? (s : String) : Option Instant := do
  let (year, cs) ← year? s.toList
  let (month, cs) ← (separator? '-' cs).bind part?
  let (day, cs) ← (separator? '-' cs).bind part?
  let cs ← match cs with
    | c :: rest => if c = 'T' ∨ c = 't' ∨ c = ' ' then some rest else none
    | [] => none
  let (hour, cs) ← part? cs
  let (minute, cs) ← (separator? ':' cs).bind part?
  let (second, cs) ← (separator? ':' cs).bind part?
  let (nano, cs) ← nanoseconds? cs
  let (offset, cs) ← offset? (trimStart cs)
  if !(trimStart cs).isEmpty then none
  else if 23 < hour ∨ 59 < minute ∨ 60 < second then none
  else
    let date ← Date.ofParts? year month day
    let minutes := hour * 3600 + minute * 60
    if second = 60 then Instant.ofLocal? date (minutes + 59) (nano + 1000000000) offset
    else Instant.ofLocal? date (minutes + second) nano offset

end Tabletop.Time
