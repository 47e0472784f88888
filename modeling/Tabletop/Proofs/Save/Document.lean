import Tabletop.Proofs.Form.Bounds
import Tabletop.Proofs.Form.RoundTrip

/-!
# Saved characters are read back

A saved character is written as a document and read again.  `document_read_back` says what comes back:
all of it, with the pools of the sheet lowered to their maxima.  A sheet that came out of a document
has no pool to lower, so that one passage through the format settles it.

The document can be read at all because it nests at most eight containers, fewer than the reader
accepts.
-/

namespace Tabletop.Save

open Tabletop.Json
open Tabletop.Sheet
open Tabletop.Time (Instant)

lemma roundTrip_metadata : RoundTrip Metadata.ofJson? Metadata.toJson id 1 where
  read_write m := by
    simp [Metadata.ofJson?, Metadata.toJson, Metadata.members, -Option.bind_eq_bind,
      roundTrip_str.read_write, roundTrip_uint8.read_write, roundTrip_int32.read_write,
      roundTrip_uint64.read_write, roundTrip_instant.read_write]
  writable m room hroom := .record hroom (by
    simp [Metadata.members, roundTrip_str.writable, roundTrip_uint8.writable,
      roundTrip_int32.writable, roundTrip_uint64.writable, roundTrip_instant.writable])
  ne_null _ := nofun

/-- The saved character with the pools of its sheet lowered to their maxima. -/
def SavedCharacter.clamped (s : SavedCharacter) : SavedCharacter :=
  { s with character := s.character.clamped }

lemma roundTrip_savedCharacter :
    RoundTrip SavedCharacter.ofJson? SavedCharacter.toJson SavedCharacter.clamped 8 where
  read_write s := by
    simp [SavedCharacter.ofJson?, SavedCharacter.toJson, -Option.bind_eq_bind,
      roundTrip_uint32.read_write, roundTrip_instant.read_write, roundTrip_character.read_write,
      roundTrip_metadata.read_write, SavedCharacter.clamped]
  writable s room hroom := .record (by omega) (by
    simp (disch := omega) [roundTrip_uint32.writable, roundTrip_instant.writable,
      roundTrip_character.writable, roundTrip_metadata.writable])
  ne_null _ := nofun

lemma SavedCharacter.parse?_document (s : SavedCharacter) :
    Json.parse? s.document = some s.toJson :=
  Json.parse?_pretty (roundTrip_savedCharacter.writable s _ (by decide))

/-- What is read from a saved document of the present version. -/
lemma SavedCharacter.read_document {s : SavedCharacter} (hversion : s.version = saveVersion) :
    SavedCharacter.read s.document = .ok s.clamped := by
  have hcheck : checkVersion s.clamped.version = .ok () := if_pos hversion
  rw [SavedCharacter.read, s.parse?_document, Option.bind_some,
    roundTrip_savedCharacter.read_write]
  simp only [hcheck]

/-- The summary is read as it was written, whatever the sheet. -/
lemma SavedCharacter.readMetadata_document {s : SavedCharacter}
    (hversion : s.version = saveVersion) : readMetadata s.document = .ok s.metadata := by
  have hcheck : checkVersion s.version = .ok () := if_pos hversion
  have hread : versionAndMetadata? s.toJson = some (s.version, s.metadata) := by
    simp [versionAndMetadata?, SavedCharacter.toJson, -Option.bind_eq_bind,
      roundTrip_uint32.read_write, roundTrip_metadata.read_write]
  rw [readMetadata, s.parse?_document, Option.bind_some, hread]
  simp only [hcheck]

/-- **Saved documents are read back.**  The document of a character gives back the version, the
time, the summary, and the sheet with each pool lowered to its maximum; hence it gives back what was
saved exactly if every pool is within its maximum.  A sheet that was itself read from a document,
whatever else is in there and whatever is left out, has such pools and is read back as it is. -/
theorem document_read_back :
    (∀ (c : Character) (now : Instant),
      SavedCharacter.read (SavedCharacter.ofCharacter c now).document =
          .ok { SavedCharacter.ofCharacter c now with character := c.clamped } ∧
        (SavedCharacter.read (SavedCharacter.ofCharacter c now).document =
          .ok (SavedCharacter.ofCharacter c now) ↔ c.Bounded)) ∧
    ∀ (j : Json) (c : Character), Character.ofJson? j = some c →
      c.Bounded ∧ (Json.parse? c.toJson.pretty).bind Character.ofJson? = some c := by
  refine ⟨fun c now => ?_, fun j c hc => ?_⟩
  · have hread : SavedCharacter.read (SavedCharacter.ofCharacter c now).document =
        .ok { SavedCharacter.ofCharacter c now with character := c.clamped } :=
      SavedCharacter.read_document rfl
    refine ⟨hread, ?_⟩
    rw [hread, ← Character.clamped_eq_self_iff]
    simp [SavedCharacter.ofCharacter]
  · have hbounded : c.Bounded := Character.bounded_of_ofJson? hc
    have hparse : Json.parse? c.toJson.pretty = some c.toJson :=
      Json.parse?_pretty (roundTrip_character.writable c _ (by decide))
    refine ⟨hbounded, ?_⟩
    rw [hparse, Option.bind_some, roundTrip_character.read_write,
      Character.clamped_eq_self_iff.2 hbounded]

/-- A sheet edited by hand: an ability has nine uses of two, most of its fields are left out, as are
all the preferences, and there is a member that no sheet has. -/
def editedSheet : Json :=
  .obj [("id", .str "9b2f63c4-0d5e-4a77-8f6b-2f1f0c7d9a10"), ("name", .str "Borin"),
    ("nickname", .str "Ironfist"), ("class", .str "Barbarian"), ("template", .str "martial"),
    ("level", .int 5),
    ("attributes", .obj [("strength", .int 18), ("dexterity", .int 12), ("constitution", .int 16),
      ("intelligence", .int 8), ("wisdom", .int 10), ("charisma", .int 40)]),
    ("hit_points", .obj [("current", .int (-3)), ("maximum", .int 55), ("temporary", .int 0)]),
    ("items", .arr []),
    ("abilities", .arr [.obj [("id", .str "1f0e7a52-6c1d-4f0a-9c56-0a4a4f2b7e31"),
      ("name", .str "Rage"), ("kind", .str "duration"),
      ("uses", .obj [("current", .int 9), ("max", .int 2)])]]),
    ("active_effects", .arr []), ("combat_log", .arr []), ("turn", .int 0),
    ("preferences", .obj [])]

/-- The nine uses are read as two, and so they are read again. -/
theorem editedSheet_read_back :
    ∃ c, Character.ofJson? editedSheet = some c ∧ c.abilities.map Ability.uses = [some ⟨2, 2⟩] ∧
      c.Bounded ∧ (Json.parse? c.toJson.pretty).bind Character.ofJson? = some c := by
  have huses : (Character.ofJson? editedSheet).map (fun c => c.abilities.map Ability.uses) =
      some [some ⟨2, 2⟩] := by decide +kernel
  obtain ⟨c, hc, huses⟩ := Option.map_eq_some_iff.1 huses
  exact ⟨c, hc, huses, document_read_back.2 editedSheet c hc⟩

end Tabletop.Save
