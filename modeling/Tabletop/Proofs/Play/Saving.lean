import Tabletop.Play.Resume
import Tabletop.Proofs.Save.Listing

/-!
# Saves stay in their directory, and apart

A character may bear any name, and a save is named after its character.  `store_confined` says that
whatever the name, the save goes directly into the save directory, and no other file is written.
The price is that names which look alike share a file, so that one save replaces the other; the
theorem says for which names that is so, and that it is so for no others.

Whether a save is replaced depends on the two names alone: not on the directory, the characters or
what else is in the file system.
-/

namespace Tabletop.Play

open Tabletop.Save Tabletop.Sheet
open Tabletop.Time (Instant)

/-- A session saves its character under the character's name, in the directory of its settings. -/
lemma Session.snd_save (s : Session) (now : Instant) (fs : FileSystem) :
    (s.save now fs).2 = (store fs (Save.savePath s.config.saveDir s.character.name)
      (SavedCharacter.ofCharacter s.character now)).2 :=
  rfl

/-- **Saves stay in their directory, and apart unless their names look alike.**  For every directory
and every name, the path of a save leads directly into the directory, to a file whose name has no
separator and no dot but that in front of `json`.  The paths of two names in a directory are equal,
as texts or name by name, exactly when the two names look alike.  Whatever the file system holds, a
save under any name, accepted or refused, leaves every location as it was, but that it may make
directories where there was nothing, and that it writes its document, if it is accepted, directly in
the directory under the name of the file.  What could be read there under another name, or the same,
is then replaced if the two names look alike, and is still read if they do not.  A session saves in
just this way. -/
theorem store_confined :
    (∀ dir name, IsChild dir (fileName name) (savePath dir name) ∧
      ∃ stem, fileName name = stem ++ ".json" ∧
        '/' ∉ stem.toList ∧ '\\' ∉ stem.toList ∧ '.' ∉ stem.toList) ∧
    (∀ dir a b, (savePath dir a = savePath dir b ↔ LookAlike a b) ∧
      (pathNames (savePath dir a) = pathNames (savePath dir b) ↔ LookAlike a b)) ∧
    (∀ fs dir name saved location,
      let (result, fs') := store fs (savePath dir name) saved
      fs'.node? location = fs.node? location ∨
      (fs.node? location = none ∧ fs'.node? location = some .directory) ∨
      (result = .ok () ∧ fs'.node? location = some (.file saved.document) ∧
        ∃ here, fs'.enter (route dir) = .ok here ∧ location = here ++ [fileName name])) ∧
    (∀ fs dir name saved other document, fs.read (savePath dir other) = .ok document →
      (store fs (savePath dir name) saved).2.read (savePath dir other) =
        .ok (if LookAlike other name then saved.document else document)) ∧
    ∀ (s : Session) (now : Instant) (fs : FileSystem),
      (s.save now fs).2 = (store fs (savePath s.config.saveDir s.character.name)
        (SavedCharacter.ofCharacter s.character now)).2 := by
  refine ⟨fun dir name => ⟨isChild_savePath dir name, exists_stem name⟩,
    fun dir a b => ⟨savePath_eq_iff, pathNames_savePath_eq_iff⟩,
    fun fs dir name saved location => ?_,
    fun fs dir name saved other document h => read_store h name saved, Session.snd_save⟩
  rcases hstore : store fs (savePath dir name) saved with ⟨result, fs'⟩
  exact node?_of_store hstore location

/-- Of two characters whose names differ in a hyphen and a blank the second takes the file of the
first; one whose name has neither leaves it alone. -/
theorem store_confined_hyphen :
    let session (name : String) : Session := ⟨wanderer name, .default⟩
    let document (name : String) := (SavedCharacter.ofCharacter (wanderer name) noon).document
    let disk := ((session "Anna-Lee").save noon .empty).2
    disk.read "saves/Anna_Lee.json" = .ok (document "Anna-Lee") ∧
      ((session "Anna Lee").save noon disk).2.read "saves/Anna_Lee.json" =
        .ok (document "Anna Lee") ∧
      ((session "AnnaLee").save noon disk).2.read "saves/Anna_Lee.json" =
        .ok (document "Anna-Lee") := by
  intro session document disk
  have hpath : savePath "saves" "Anna-Lee" = "saves/Anna_Lee.json" := by decide +kernel
  have haccepted : (store .empty (savePath "saves" "Anna-Lee")
      (SavedCharacter.ofCharacter (wanderer "Anna-Lee") noon)).1 = .ok () := by decide +kernel
  rcases hstore : store .empty (savePath "saves" "Anna-Lee")
      (SavedCharacter.ofCharacter (wanderer "Anna-Lee") noon) with ⟨result, stored⟩
  rw [hstore] at haccepted
  obtain rfl : result = .ok () := haccepted
  have hdisk : disk = stored := (Session.snd_save _ _ _).trans (congrArg Prod.snd hstore)
  have hread : disk.read (savePath "saves" "Anna-Lee") = .ok (document "Anna-Lee") :=
    hdisk ▸ read_of_store hstore
  have halike : LookAlike "Anna-Lee" "Anna Lee" := by decide +kernel
  have hunlike : ¬LookAlike "Anna-Lee" "AnnaLee" := by decide +kernel
  obtain ⟨-, -, -, hreplaced, hsession⟩ := store_confined
  have hsecond := hreplaced disk "saves" "Anna Lee"
    (SavedCharacter.ofCharacter (wanderer "Anna Lee") noon) _ _ hread
  have hthird := hreplaced disk "saves" "AnnaLee"
    (SavedCharacter.ofCharacter (wanderer "AnnaLee") noon) _ _ hread
  rw [if_pos halike] at hsecond
  rw [if_neg hunlike] at hthird
  rw [← hpath, hsession, hsession]
  exact ⟨hread, hsecond, hthird⟩

end Tabletop.Play
