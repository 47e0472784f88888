import Tabletop.Form.Character
import Tabletop.Json.Parser
import Tabletop.Json.Printer

/-!
# Saved characters

A saved character is a sheet with the version of the format, the time of saving and a summary for
listings.  It is written as an indented JSON document, so that it stays readable and editable.

`SavedCharacter.read` reads a document as a whole; `readMetadata` reads only version and summary, so
it accepts documents whose sheet is damaged.  Both refuse other versions of the format.
-/

namespace Tabletop.Save

open Tabletop.Json (record? uint8? uint32? uint64? int32? str? ofUInt8 ofUInt32 ofUInt64 ofInt32)
open Tabletop.Sheet Tabletop.Text
open Tabletop.Time (Instant)

/-- The version of the format. -/
def saveVersion : UInt32 := 1

/-- What a listing shows about a saved character. -/
structure Metadata where
  name : String
  /-- The name of the class. -/
  className : String
  level : UInt8
  hitPoints : Int32
  maxHitPoints : Int32
  /-- The number of entries in the combat log. -/
  logEntries : UInt64
  savedAt : Instant
deriving DecidableEq, Repr

/-- A saved character. -/
structure SavedCharacter where
  /-- The version of the format. -/
  version : UInt32
  savedAt : Instant
  character : Character
  metadata : Metadata
deriving DecidableEq, Repr

/-- The summary of a character saved at some time. -/
def Metadata.ofCharacter (c : Character) (now : Instant) : Metadata :=
  { name := c.name
    className := c.characterClass.name
    level := c.level
    hitPoints := c.hitPoints.current
    maxHitPoints := c.hitPoints.maximum
    logEntries := UInt64.ofNat c.combatLog.size
    savedAt := now }

/-- A character to be saved at some time, in the present version. -/
def SavedCharacter.ofCharacter (c : Character) (now : Instant) : SavedCharacter :=
  ⟨saveVersion, now, c, Metadata.ofCharacter c now⟩

/-! ## Forms -/

/-- The members of a summary before the time of saving. -/
def Metadata.members (m : Metadata) : List (String × Json) :=
  [("name", .str m.name), ("class", .str m.className), ("level", ofUInt8 m.level),
    ("hit_points", ofInt32 m.hitPoints), ("max_hit_points", ofInt32 m.maxHitPoints),
    ("log_entries", ofUInt64 m.logEntries)]

/-- The form of a summary. -/
def Metadata.toJson (m : Metadata) : Json :=
  .obj (m.members ++ [("saved_at", m.savedAt.toJson)])

/-- Reads a summary. -/
def Metadata.ofJson? (j : Json) : Option Metadata := do
  let slot ← record? ["name", "class", "level", "hit_points", "max_hit_points", "log_entries",
    "saved_at"] j
  let name ← (slot "name").required str?
  let className ← (slot "class").required str?
  let level ← (slot "level").required uint8?
  let hitPoints ← (slot "hit_points").required int32?
  let maxHitPoints ← (slot "max_hit_points").required int32?
  let logEntries ← (slot "log_entries").required uint64?
  let savedAt ← (slot "saved_at").required Instant.ofJson?
  return ⟨name, className, level, hitPoints, maxHitPoints, logEntries, savedAt⟩

/-- The form of a saved character. -/
def SavedCharacter.toJson (s : SavedCharacter) : Json :=
  .obj [("version", ofUInt32 s.version), ("saved_at", s.savedAt.toJson),
    ("character", s.character.toJson), ("metadata", s.metadata.toJson)]

/-- Reads a saved character of any version. -/
def SavedCharacter.ofJson? (j : Json) : Option SavedCharacter := do
  let slot ← record? ["version", "saved_at", "character", "metadata"] j
  let version ← (slot "version").required uint32?
  let savedAt ← (slot "saved_at").required Instant.ofJson?
  let character ← (slot "character").required Character.ofJson?
  let metadata ← (slot "metadata").required Metadata.ofJson?
  return ⟨version, savedAt, character, metadata⟩

/-- Reads the version and the summary of a saved character. -/
def versionAndMetadata? (j : Json) : Option (UInt32 × Metadata) := do
  let slot ← record? ["version", "metadata"] j
  let version ← (slot "version").required uint32?
  let metadata ← (slot "metadata").required Metadata.ofJson?
  return (version, metadata)

/-! ## Documents -/

/-- Why a document is no saved character. -/
inductive DocumentError
  /-- It is no JSON document, or not one of the right form. -/
  | malformed
  /-- It is of another version. -/
  | versionMismatch (found : UInt32)
deriving DecidableEq, Repr

/-- Succeeds for the present version. -/
def checkVersion (found : UInt32) : Except DocumentError Unit :=
  if found = saveVersion then .ok () else .error (.versionMismatch found)

/-- The document of a saved character. -/
def SavedCharacter.document (s : SavedCharacter) : String :=
  s.toJson.pretty

/-- The saved character of a document. -/
def SavedCharacter.read (document : String) : Except DocumentError SavedCharacter :=
  match (Json.parse? document).bind SavedCharacter.ofJson? with
  | none => .error .malformed
  | some saved =>
    match checkVersion saved.version with
    | .ok _ => .ok saved
    | .error e => .error e

/-- The summary of a saved character in a document, whatever the sheet in it. -/
def readMetadata (document : String) : Except DocumentError Metadata :=
  match (Json.parse? document).bind versionAndMetadata? with
  | none => .error .malformed
  | some (version, metadata) =>
    match checkVersion version with
    | .ok _ => .ok metadata
    | .error e => .error e

end Tabletop.Save
