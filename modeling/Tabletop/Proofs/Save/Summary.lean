import Tabletop.Proofs.Save.Listing

/-!
# Summaries and whole saves

A save is loaded as a whole, or looked at for its version and summary alone.  The two readers are
records of their own, with four fields and with two, and each tells its fields by name.  So they read
the same values from the same document, and whatever can be loaded has a summary, which is that of the
loaded save (`peek_agrees`).

That is so for every document but an array, where fields are told by position.  The summary is the
fourth of four fields and the second of two, and a save that is written as an array can be loaded, but
not looked at (`array_loaded_not_peeked`).
-/

namespace Tabletop.Json

variable {names : List String} {slot : String → Slot} {α : Type} {read : Json → Option α} {a : α}

/-- A record with fewer names has the same fields in an object. -/
lemma record?_of_subset {members : List (String × Json)} {fewer : List String}
    (hfewer : fewer ⊆ names) (h : record? names (.obj members) = some slot) :
    record? fewer (.obj members) = some slot := by
  unfold record? at h ⊢
  simp only [Option.ite_none_right_eq_some, List.all_eq_true] at h ⊢
  exact ⟨fun name hname => h.1 name (hfewer hname), h.2⟩

/-- A field of an array that is there has its place in it. -/
lemma idxOf_lt_of_required {items : List Json} {name : String}
    (hslot : record? names (.arr items) = some slot)
    (h : (slot name).required read = some a) : names.idxOf name < items.length := by
  simp only [record?, Option.ite_none_right_eq_some, Option.some.injEq] at hslot
  obtain ⟨-, rfl⟩ := hslot
  unfold itemSlot at h
  split at h
  · rename_i item hitem
    exact (List.getElem?_eq_some_iff.1 hitem).1
  · simp [Slot.required] at h

end Tabletop.Json

namespace Tabletop.Save

open Tabletop.Json
open Tabletop.Sheet

variable {fs : FileSystem} {path document : String} {saved : SavedCharacter} {j : Json}

/-! ## Readers of documents -/

/-- Whether a document is an array. -/
def IsArray (document : String) : Prop :=
  ∃ items, Json.parse? document = some (.arr items)

/-- The saved character of a document, whatever its version. -/
def decode? (document : String) : Option SavedCharacter :=
  (Json.parse? document).bind SavedCharacter.ofJson?

/-- Version and summary of a saved character are among the fields that it is read from. -/
lemma exists_slot_of_ofJson? (h : SavedCharacter.ofJson? j = some saved) :
    ∃ slot, record? ["version", "saved_at", "character", "metadata"] j = some slot ∧
      (slot "version").required uint32? = some saved.version ∧
      (slot "metadata").required Metadata.ofJson? = some saved.metadata := by
  unfold SavedCharacter.ofJson? at h
  obtain ⟨slot, hslot, h⟩ := exists_of_bind h
  obtain ⟨version, hversion, h⟩ := exists_of_bind h
  obtain ⟨savedAt, -, h⟩ := exists_of_bind h
  obtain ⟨c, -, h⟩ := exists_of_bind h
  obtain ⟨metadata, hmetadata, h⟩ := exists_of_bind h
  obtain rfl := Option.some.inj h
  exact ⟨slot, hslot, hversion, hmetadata⟩

lemma versionAndMetadata?_of_ofJson? (harray : ∀ items, j ≠ .arr items)
    (h : SavedCharacter.ofJson? j = some saved) :
    versionAndMetadata? j = some (saved.version, saved.metadata) := by
  obtain ⟨slot, hslot, hversion, hmetadata⟩ := exists_slot_of_ofJson? h
  cases j with
  | obj members =>
      have hfewer : record? ["version", "metadata"] (.obj members) = some slot :=
        record?_of_subset (by simp) hslot
      simp [versionAndMetadata?, hfewer, hversion, hmetadata]
  | arr items => exact absurd rfl (harray items)
  | _ => simp [record?] at hslot

/-- An array with the four fields of a saved character is too long for the two of a summary. -/
lemma versionAndMetadata?_of_arr {items : List Json}
    (h : SavedCharacter.ofJson? (.arr items) = some saved) :
    versionAndMetadata? (.arr items) = none := by
  obtain ⟨slot, hslot, -, hmetadata⟩ := exists_slot_of_ofJson? h
  have hlong : 3 < items.length := idxOf_lt_of_required hslot hmetadata
  have htwo : record? ["version", "metadata"] (.arr items) = none := if_neg (by simp; omega)
  rw [versionAndMetadata?, htwo]
  rfl

/-! ## Readers of files -/

/-- What was read from a document of some version, if that is the present one. -/
def ofVersion {α : Type} (version : UInt32) (a : α) : Except SaveError α :=
  if version = saveVersion then .ok a else .error (.document (.versionMismatch version))

lemma load_of_decoded (hread : fs.read path = .ok document) (h : decode? document = some saved) :
    load fs path = ofVersion saved.version saved := by
  unfold decode? at h
  simp only [load, hread, SavedCharacter.read, h, checkVersion, ofVersion]
  by_cases hversion : saved.version = saveVersion <;> simp [hversion]

lemma load_of_not_decoded (hread : fs.read path = .ok document) (h : decode? document = none) :
    load fs path = .error (.document .malformed) := by
  unfold decode? at h
  simp only [load, hread, SavedCharacter.read, h]

lemma peek_of_summarized {version : UInt32} {metadata : Metadata}
    (hread : fs.read path = .ok document) (hparse : Json.parse? document = some j)
    (h : versionAndMetadata? j = some (version, metadata)) :
    peek fs path = ofVersion version metadata := by
  simp only [peek, hread, readMetadata, hparse, Option.bind_some, h, checkVersion, ofVersion]
  by_cases hversion : version = saveVersion <;> simp [hversion]

lemma peek_of_not_summarized (hread : fs.read path = .ok document)
    (hparse : Json.parse? document = some j) (h : versionAndMetadata? j = none) :
    peek fs path = .error (.document .malformed) := by
  simp only [peek, hread, readMetadata, hparse, Option.bind_some, h]

/-- A document that is read as a whole and is no array has the summary of what is read. -/
lemma peek_of_decoded (hread : fs.read path = .ok document) (harray : ¬IsArray document)
    (h : decode? document = some saved) : peek fs path = ofVersion saved.version saved.metadata := by
  obtain ⟨j, hparse, hj⟩ := Option.bind_eq_some_iff.1 h
  refine peek_of_summarized hread hparse (versionAndMetadata?_of_ofJson? ?_ hj)
  rintro items rfl
  exact harray ⟨items, hparse⟩

/-- **Summaries agree with whole saves.**  A file that cannot be read can be neither loaded nor looked
at.  If its document is no array and is read as a saved character, then both readers accept it and give
the same summary, or both refuse it for the same version; and if the summary is refused, so is the
whole.  An array that is read as a saved character has no summary. -/
theorem peek_agrees (fs : FileSystem) (path : String) :
    (∀ e, fs.read path = .error e →
      load fs path = .error (.file e) ∧ peek fs path = .error (.file e)) ∧
    (∀ document, fs.read path = .ok document → ¬IsArray document →
      (∀ saved, decode? document = some saved → saved.version = saveVersion →
        load fs path = .ok saved ∧ peek fs path = .ok saved.metadata) ∧
      (∀ saved, decode? document = some saved → saved.version ≠ saveVersion →
        load fs path = .error (.document (.versionMismatch saved.version)) ∧
        peek fs path = .error (.document (.versionMismatch saved.version))) ∧
      ∀ e, peek fs path = .error e → ∃ e', load fs path = .error e') ∧
    ∀ document saved, fs.read path = .ok document → IsArray document →
      decode? document = some saved → peek fs path = .error (.document .malformed) := by
  refine ⟨fun e hread => ?_,
    fun document hread harray => ⟨fun saved h hversion => ?_, fun saved h hversion => ?_, fun e he => ?_⟩,
    fun document saved hread harray h => ?_⟩
  · rw [load, peek, hread]
    exact ⟨rfl, rfl⟩
  · rw [load_of_decoded hread h, peek_of_decoded hread harray h]
    exact ⟨if_pos hversion, if_pos hversion⟩
  · rw [load_of_decoded hread h, peek_of_decoded hread harray h]
    exact ⟨if_neg hversion, if_neg hversion⟩
  · cases h : decode? document with
    | none => exact ⟨_, load_of_not_decoded hread h⟩
    | some saved =>
        -- Both readers ask the version only, so a summary that is refused has another one.
        have hversion : saved.version ≠ saveVersion := by
          intro hversion
          simp [peek_of_decoded hread harray h, ofVersion, hversion] at he
        exact ⟨_, (load_of_decoded hread h).trans (if_neg hversion)⟩
  · obtain ⟨items, hparse⟩ := harray
    rw [decode?, hparse, Option.bind_some] at h
    exact peek_of_not_summarized hread hparse (versionAndMetadata?_of_arr h)

/-! ## Saves that were written in other ways -/

namespace SavedCharacter

/-- A saved character with its members in another order, and one that no save has. -/
def shuffled (s : SavedCharacter) : Json :=
  .obj [("metadata", s.metadata.toJson), ("note", .arr [.str "version", .int 2, .null]),
    ("character", s.character.toJson), ("saved_at", s.savedAt.toJson), ("version", ofUInt32 s.version)]

/-- A saved character as an array of its fields. -/
def asArray (s : SavedCharacter) : Json :=
  .arr [ofUInt32 s.version, s.savedAt.toJson, s.character.toJson, s.metadata.toJson]

lemma parse?_shuffled (s : SavedCharacter) : Json.parse? s.shuffled.pretty = some s.shuffled := by
  have hnote : Writable 126 (.arr [.str "version", .int 2, .null]) :=
    .arr (by simp [Writable.str, Writable.null, Writable.int 125 (n := 2) (by decide)])
  refine Json.parse?_pretty (@Writable.obj 126 _ ?_)
  simp (disch := decide) [hnote, roundTrip_uint32.writable, roundTrip_instant.writable,
    roundTrip_character.writable, roundTrip_metadata.writable]

lemma decode?_shuffled (s : SavedCharacter) : decode? s.shuffled.pretty = some s.clamped := by
  rw [decode?, parse?_shuffled, Option.bind_some]
  simp [SavedCharacter.ofJson?, shuffled, -Option.bind_eq_bind, roundTrip_uint32.read_write,
    roundTrip_instant.read_write, roundTrip_character.read_write, roundTrip_metadata.read_write,
    SavedCharacter.clamped]

lemma not_isArray_shuffled (s : SavedCharacter) : ¬IsArray s.shuffled.pretty := by
  rintro ⟨items, hparse⟩
  rw [parse?_shuffled] at hparse
  simp [shuffled] at hparse

lemma parse?_asArray (s : SavedCharacter) : Json.parse? s.asArray.pretty = some s.asArray := by
  refine Json.parse?_pretty (@Writable.arr 126 _ ?_)
  simp (disch := decide) [roundTrip_uint32.writable, roundTrip_instant.writable,
    roundTrip_character.writable, roundTrip_metadata.writable]

lemma decode?_asArray (s : SavedCharacter) : decode? s.asArray.pretty = some s.clamped := by
  rw [decode?, parse?_asArray, Option.bind_some]
  simp [SavedCharacter.ofJson?, asArray, -Option.bind_eq_bind, record?, itemSlot,
    roundTrip_uint32.read_write, roundTrip_instant.read_write, roundTrip_character.read_write,
    roundTrip_metadata.read_write, SavedCharacter.clamped]

end SavedCharacter

/-- A save whose summary does not go with its sheet. -/
def renamed : SavedCharacter :=
  let saved := SavedCharacter.ofCharacter (wanderer "Mira") noon
  { saved with metadata := { saved.metadata with name := "Mira the Elder", level := 20 } }

/-- A disk with one file. -/
def oneFile (document : String) : FileSystem :=
  ⟨[(["a.json"], .file document)]⟩

lemma read_oneFile (document : String) : (oneFile document).read "a.json" = .ok document :=
  rfl

/-- The save in the present version, in another one, and as an array. -/
theorem peek_agrees_renamed :
    let present := oneFile renamed.shuffled.pretty
    let old := oneFile { renamed with version := 99 }.shuffled.pretty
    let array := oneFile renamed.asArray.pretty
    (load present "a.json" = .ok renamed.clamped ∧ peek present "a.json" = .ok renamed.metadata) ∧
      (load old "a.json" = .error (.document (.versionMismatch 99)) ∧
        peek old "a.json" = .error (.document (.versionMismatch 99))) ∧
      peek array "a.json" = .error (.document .malformed) := by
  intro present old array
  obtain ⟨-, hpresent, -⟩ := peek_agrees present "a.json"
  obtain ⟨-, hold, -⟩ := peek_agrees old "a.json"
  obtain ⟨-, -, harray⟩ := peek_agrees array "a.json"
  obtain ⟨hboth, -, -⟩ := hpresent _ (read_oneFile _) renamed.not_isArray_shuffled
  obtain ⟨-, hneither, -⟩ := hold _ (read_oneFile _) (SavedCharacter.not_isArray_shuffled _)
  exact ⟨hboth _ renamed.decode?_shuffled rfl,
    hneither _ (SavedCharacter.decode?_shuffled _) (by decide),
    harray _ _ (read_oneFile _) ⟨_, renamed.parse?_asArray⟩ renamed.decode?_asArray⟩

/-- **A save that cannot be looked at.**  As an array the save is loaded, but has no summary. -/
theorem array_loaded_not_peeked :
    let array := oneFile renamed.asArray.pretty
    load array "a.json" = .ok renamed.clamped ∧
      peek array "a.json" = .error (.document .malformed) := by
  intro array
  have hsummary : versionAndMetadata? renamed.asArray = none := by decide +kernel
  exact ⟨load_of_decoded (read_oneFile _) renamed.decode?_asArray,
    peek_of_not_summarized (read_oneFile _) renamed.parse?_asArray hsummary⟩

end Tabletop.Save
