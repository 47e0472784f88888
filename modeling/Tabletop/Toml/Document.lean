import Tabletop.Toml.Lexeme

/-!
# TOML documents

`Toml.parse?` reads a document of TOML 1.0: keys with values, tables and arrays of tables under
headers, arrays and inline tables.  Nothing may be defined twice.  The result is the top table.
-/

namespace Tabletop.Toml

/-! ## Values -/

mutual

/-- A value inside `depth` arrays and inline tables, and what follows it. -/
def value? (fuel depth : Nat) (cs : List Char) : Option (Value × List Char) :=
  match fuel with
  | 0 => none
  | fuel + 1 =>
    match cs with
    | '[' :: rest =>
      if depth < maxParts then
        (items? fuel (depth + 1) rest).map fun (items, rest) => (.arr items, rest)
      else none
    | '\x7b' :: rest =>
      if depth < maxParts then
        match skipSpaces rest with
        | '\x7d' :: rest => some (.table [], rest)
        | rest => (entries? fuel (depth + 1) [] rest).map fun (entries, rest) =>
          (.table (finishEntries entries), rest)
      else none
    | '"' :: _ => (string? cs).map fun (s, rest) => (.str s, rest)
    | '\x27' :: _ => (string? cs).map fun (s, rest) => (.str s, rest)
    | _ => word? cs

/-- The elements of an array up to its end, and what follows it.  Lines may end anywhere between
them, and a comma may follow the last. -/
def items? (fuel depth : Nat) (cs : List Char) : Option (List Value × List Char) :=
  match fuel with
  | 0 => none
  | fuel + 1 =>
    match skipLines cs.length cs with
    | ']' :: rest => some ([], rest)
    | rest => do
      let (item, rest) ← value? fuel depth rest
      match skipLines rest.length rest with
      | ',' :: rest =>
        let (items, rest) ← items? fuel depth rest
        return (item :: items, rest)
      | ']' :: rest => return ([item], rest)
      | _ => none

/-- The entries of an inline table up to its end, after those already read, and what follows it. -/
def entries? (fuel depth : Nat) (entries : Entries) (cs : List Char) :
    Option (Entries × List Char) :=
  match fuel with
  | 0 => none
  | fuel + 1 => do
    let (path, key, rest) ← key? cs
    let rest ← after? '=' rest
    let (v, rest) ← value? fuel depth (skipSpaces rest)
    let entries ← putValue path key v entries
    match skipSpaces rest with
    | ',' :: rest => entries? fuel depth entries rest
    | '\x7d' :: rest => return (entries, rest)
    | _ => none

end

/-! ## Lines -/

/-- A document read so far. -/
structure Draft where
  /-- The top table. -/
  root : Entries
  /-- The table that keys go into, as a path from the top. -/
  location : List String

/-- A header line and what follows it. -/
def header? (draft : Draft) (cs : List Char) : Option (Draft × List Char) :=
  match cs with
  | '[' :: '[' :: rest => do
    let (path, key, rest) ← key? rest
    let rest ← (after? ']' rest).bind (after? ']')
    let root ← openElement path key draft.root
    let rest ← restOfLine? rest
    return (⟨root, path ++ [key]⟩, rest)
  | '[' :: rest => do
    let (path, key, rest) ← key? rest
    let rest ← after? ']' rest
    let root ← openTable path key draft.root
    let rest ← restOfLine? rest
    return (⟨root, path ++ [key]⟩, rest)
  | _ => none

/-- A line with a key and a value, and what follows it. -/
def keyLine? (draft : Draft) (cs : List Char) : Option (Draft × List Char) := do
  let (path, key, rest) ← key? cs
  let rest ← after? '=' rest
  let (v, rest) ← value? (cs.length + 1) 0 (skipSpaces rest)
  let root ← putValueAt draft.location path key v draft.root
  let rest ← restOfLine? rest
  return ({ draft with root := root }, rest)

/-- The document with the lines of a text added. -/
def lines? (fuel : Nat) (draft : Draft) (cs : List Char) : Option Draft :=
  match fuel with
  | 0 => none
  | fuel + 1 =>
    let line := skipSpaces cs
    match line with
    | [] => some draft
    | '[' :: _ => (header? draft line).bind fun (draft, rest) => lines? fuel draft rest
    | _ =>
      match restOfLine? line with
      | some rest => lines? fuel draft rest
      | none => (keyLine? draft line).bind fun (draft, rest) => lines? fuel draft rest

/-- The text without the mark of its encoding in front of it. -/
def skipByteOrderMark : List Char → List Char
  | c :: rest => if c.toNat = 0xFEFF then rest else c :: rest
  | [] => []

/-- The top table of a document. -/
def parse? (text : String) : Option (List (String × Value)) :=
  let cs := skipByteOrderMark text.toList
  (lines? (cs.length + 1) ⟨[], []⟩ cs).map fun draft => finishEntries draft.root

end Tabletop.Toml
