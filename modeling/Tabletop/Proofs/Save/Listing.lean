import Tabletop.Proofs.Save.Document
import Tabletop.Proofs.Save.Storing

/-!
# Saved characters are listed

The writer makes the name of a file from the name of a character, and the lister decides by the
extension of a file whether to look into it.  `store_listed` says where the two agree: a character
saved under the path of a name is found in the listing of the directory, once and with its summary.

They disagree about one name and about one directory.  Nothing is left of the empty name in front of
`.json`, and a name that starts with its only dot has no extension, so that save is skipped although
it can be read (`store_nameless`).  The empty directory is the current one for the writer, while the
lister finds nothing at an empty path and takes the directory for a new one: its listing is empty,
whatever was saved there (`store_unplaced`).
-/

namespace Tabletop.Save

open Tabletop.Sheet
open Tabletop.Time (Instant)

variable {fs fs' : FileSystem} {here : Location} {dir file name path : String} {info : SaveInfo}
  {c : Character} {now : Instant}

/-! ## File names -/

/-- A name has the extension of a save when there is something in front of it. -/
lemma hasSaveExtension_iff :
    hasSaveExtension name = true ↔ ∃ stem, stem ≠ "" ∧ name = stem ++ ".json" := by
  simp only [hasSaveExtension, Bool.and_eq_true, List.isSuffixOf_iff_suffix, bne_iff_ne]
  constructor
  · rintro ⟨⟨cs, hcs⟩, hne⟩
    refine ⟨String.ofList cs, ?_, String.toList_inj.1 (by simpa using hcs.symm)⟩
    intro hempty
    obtain rfl : cs = [] := by simpa using hempty
    exact hne hcs.symm
  · rintro ⟨stem, hstem, rfl⟩
    refine ⟨⟨stem.toList, by simp⟩, ?_⟩
    simpa using hstem

/-! ## Listings -/

/-- The saves in a directory by name of the character. -/
def listing (fs : FileSystem) (dir : String) (here : Location) : List SaveInfo :=
  ((fs.childNames here).filterMap (saveInfo? fs dir)).mergeSort SaveInfo.precedes

/-- The directory of a stored file can be entered, and holds the file. -/
lemma exists_of_store {saved : SavedCharacter} (hfile : '/' ∉ file.toList)
    (h : store fs (childPath dir file) saved = (.ok (), fs')) :
    ∃ here, fs'.enter (route dir) = .ok here ∧ file ∈ fs'.childNames here := by
  obtain ⟨here, henter, hnode, -, -⟩ := exists_place_of_store hfile h
  refine ⟨here, henter, ?_⟩
  rw [FileSystem.mem_childNames_iff, hnode]
  rfl

/-- A directory that can be entered is listed, if its path is not empty. -/
lemma list_of_enter (hdir : dir ≠ "") (h : fs.enter (route dir) = .ok here) :
    list fs dir = (.ok (listing fs dir here), fs) := by
  obtain ⟨hcheck, hwalk, -⟩ := FileSystem.enter_eq_ok_iff.1 h
  have hlocate : fs.locate (route dir) = .ok here :=
    FileSystem.locate_eq_ok_iff.2 ⟨route_ne_of_ne_empty hdir, hcheck, hwalk⟩
  have hexists : fs.exists? dir = .ok true := by
    rw [FileSystem.exists?, hlocate]
  rw [list, hexists]
  simp only [h]
  rfl

/-- The empty path lists nothing, and nothing is made. -/
lemma list_empty (fs : FileSystem) : list fs "" = (.ok [], fs) :=
  rfl

lemma saveInfo?_eq_some_iff :
    saveInfo? fs dir file = some info ↔
      hasSaveExtension file = true ∧ info.path = childPath dir file ∧
        peek fs info.path = .ok info.metadata := by
  obtain ⟨path, metadata⟩ := info
  unfold saveInfo?
  split
  · rename_i hextension
    split
    · rename_i found hpeek
      constructor
      · rintro ⟨⟩
        exact ⟨hextension, rfl, hpeek⟩
      · rintro ⟨-, rfl, hinfo⟩
        obtain rfl := Except.ok.inj (hpeek.symm.trans hinfo)
        rfl
    · rename_i e hpeek
      simp only [reduceCtorEq, false_iff]
      rintro ⟨-, rfl, hinfo⟩
      exact nomatch hpeek.symm.trans hinfo
  · rename_i hextension
    simp [hextension]

/-- A listing shows what is in the directory under a name with the extension of saves and can be
read. -/
lemma mem_listing_iff :
    info ∈ listing fs dir here ↔
      ∃ stem, stem ≠ "" ∧ (fs.node? (here ++ [stem ++ ".json"])).isSome = true ∧
        info.path = childPath dir (stem ++ ".json") ∧ peek fs info.path = .ok info.metadata := by
  rw [listing, (List.mergeSort_perm _ _).mem_iff, List.mem_filterMap]
  simp only [saveInfo?_eq_some_iff, FileSystem.mem_childNames_iff]
  constructor
  · rintro ⟨file, hfile, hextension, hpath, hpeek⟩
    obtain ⟨stem, hstem, rfl⟩ := hasSaveExtension_iff.1 hextension
    exact ⟨stem, hstem, hfile, hpath, hpeek⟩
  · rintro ⟨stem, hstem, hfile, hpath, hpeek⟩
    exact ⟨_, hfile, hasSaveExtension_iff.2 ⟨stem, hstem, rfl⟩, hpath, hpeek⟩

/-- No file is listed twice. -/
lemma nodup_path_listing (hfs : fs.IsMap) (dir : String) (here : Location) :
    ((listing fs dir here).map SaveInfo.path).Nodup := by
  rw [listing, ((List.mergeSort_perm _ _).map _).nodup_iff, List.map_filterMap]
  refine List.Nodup.filterMap ?_ (FileSystem.nodup_childNames hfs here)
  intro file file' path hpath hpath'
  obtain ⟨info, hinfo, rfl⟩ := Option.map_eq_some_iff.1 hpath
  obtain ⟨info', hinfo', hsame⟩ := Option.map_eq_some_iff.1 hpath'
  have hfile := (saveInfo?_eq_some_iff.1 hinfo).2.1
  have hfile' := (saveInfo?_eq_some_iff.1 hinfo').2.1
  exact childPath_injective dir (hfile.symm.trans (hsame.symm.trans hfile'))

lemma pairwise_listing (fs : FileSystem) (dir : String) (here : Location) :
    (listing fs dir here).Pairwise fun a b => a.metadata.name ≤ b.metadata.name := by
  have hsorted : (listing fs dir here).Pairwise fun a b => a.precedes b = true := by
    refine List.pairwise_mergeSort ?_ ?_ _
    · intro a b c hab hbc
      exact decide_eq_true (String.le_trans (of_decide_eq_true hab) (of_decide_eq_true hbc))
    · intro a b
      simpa [SaveInfo.precedes] using String.le_total a.metadata.name b.metadata.name
  exact hsorted.imp of_decide_eq_true

/-- What is listed is the only one of its path. -/
lemma filter_path_eq {saves : List SaveInfo} (hnodup : (saves.map SaveInfo.path).Nodup)
    (h : info ∈ saves) : (saves.filter fun i => i.path == info.path) = [info] := by
  obtain ⟨before, after, rfl⟩ := List.append_of_mem h
  rw [List.map_append, List.map_cons, List.nodup_middle, List.nodup_cons,
    ← List.map_append] at hnodup
  have hother : ∀ i ∈ before ++ after, ¬(i.path == info.path) = true := by
    intro i hi hpath
    exact hnodup.1 (List.mem_map.2 ⟨i, hi, beq_iff_eq.1 hpath⟩)
  obtain ⟨hbefore, hafter⟩ := List.forall_mem_append.1 hother
  exact List.filter_eq_cons_iff.2
    ⟨before, after, rfl, hbefore, beq_self_eq_true _, List.filter_eq_nil_iff.2 hafter⟩

lemma peek_of_store (h : store fs path (SavedCharacter.ofCharacter c now) = (.ok (), fs')) :
    peek fs' path = .ok (Metadata.ofCharacter c now) := by
  rw [peek, read_of_store h]
  simp only [SavedCharacter.readMetadata_document (s := SavedCharacter.ofCharacter c now) rfl]
  rfl

/-- A listing has no entry for the path of the empty name: what is listed has a name in front of its
extension, and the path determines that name. -/
lemma filter_path_eq_nil (hname : name = "") :
    ((listing fs dir here).filter fun info => info.path == savePath dir name) = [] := by
  refine List.filter_eq_nil_iff.2 fun info hinfo hpath => ?_
  obtain ⟨stem, hstem, -, hstempath, -⟩ := mem_listing_iff.1 hinfo
  have hsame : fileName name = stem ++ ".json" :=
    childPath_injective dir ((beq_iff_eq.1 hpath).symm.trans hstempath)
  refine hstem ?_
  rw [← fileName_eq_append_iff.1 hsame, hname]
  rfl

/-- The file of a name that is not empty is listed with the summary it is read for. -/
lemma mem_listing_savePath {metadata : Metadata} (hname : name ≠ "")
    (hfile : fileName name ∈ fs.childNames here)
    (hpeek : peek fs (savePath dir name) = .ok metadata) :
    ⟨savePath dir name, metadata⟩ ∈ listing fs dir here := by
  refine mem_listing_iff.2 ⟨String.ofList (name.toList.map fileChar), ?_, ?_, ?_, hpeek⟩
  · simpa using hname
  · rw [← fileName_eq, ← FileSystem.mem_childNames_iff]
    exact hfile
  · rw [← fileName_eq]
    rfl

/-- **Saved characters are listed.**  Whatever the directory holds, whatever the character, and
whatever the names of both: if the character can be saved under the path of the name in the
directory, then the directory can be listed and the saved file can be read for its summary.  The
listing has exactly one entry with that path, and it shows that summary, unless the name or the path
of the directory is empty: the listing has no entry for it then.  It has one entry for each file of
the directory whose name is something followed by `.json` and whose summary can be read, and no
other entries, in the order of the characters' names; under the empty path it has none at all. -/
theorem store_listed (hfs : fs.IsMap) (c : Character) (now : Instant)
    (hstore : store fs (savePath dir name) (SavedCharacter.ofCharacter c now) = (.ok (), fs')) :
    peek fs' (savePath dir name) = .ok (Metadata.ofCharacter c now) ∧
    ∃ here saves, fs'.enter (route dir) = .ok here ∧ list fs' dir = (.ok saves, fs') ∧
      (saves.filter fun info => info.path == savePath dir name) =
        (if dir = "" ∨ name = "" then [] else
          [⟨savePath dir name, Metadata.ofCharacter c now⟩]) ∧
      (saves.map SaveInfo.path).Nodup ∧
      (∀ info, info ∈ saves ↔ dir ≠ "" ∧
        ∃ stem, stem ≠ "" ∧ (fs'.node? (here ++ [stem ++ ".json"])).isSome = true ∧
          info.path = childPath dir (stem ++ ".json") ∧
          peek fs' info.path = .ok info.metadata) ∧
      saves.Pairwise fun a b => a.metadata.name ≤ b.metadata.name := by
  have hpeek : peek fs' (savePath dir name) = .ok (Metadata.ofCharacter c now) :=
    peek_of_store hstore
  obtain ⟨here, henter, hfile⟩ := exists_of_store (slash_notMem_fileName name) hstore
  refine ⟨hpeek, here, ?_⟩
  by_cases hdir : dir = ""
  · subst hdir
    exact ⟨[], henter, list_empty fs', by simp⟩
  have hmap : fs'.IsMap := FileSystem.isMap_writeWithDirs hfs (writeWithDirs_of_store hstore)
  refine ⟨listing fs' dir here, henter, list_of_enter hdir henter, ?_,
    nodup_path_listing hmap dir here, fun _ => mem_listing_iff.trans (and_iff_right hdir).symm,
    pairwise_listing fs' dir here⟩
  by_cases hname : name = ""
  · rw [if_pos (.inr hname)]
    exact filter_path_eq_nil hname
  · rw [if_neg (not_or.2 ⟨hdir, hname⟩)]
    exact filter_path_eq (nodup_path_listing hmap dir here)
      (mem_listing_savePath hname hfile hpeek)

/-- A directory with a folder that is called like a save, a file that is none, and one that is
called `.json`. -/
def clutteredDisk : FileSystem :=
  ⟨[(["saves"], .directory), (["saves", "old.json"], .directory),
    (["saves", "notes.json"], .file "Buy rope."), (["saves", ".json"], .file "{}")]⟩

/-- The character of the samples below. -/
def wanderer (name : String) : Character :=
  Character.new ⟨⟨7⟩⟩ name .wizard

/-- The time of the samples below. -/
def noon : Instant :=
  ⟨⟨2024, 5, 1, by decide⟩, 43200, 0, by decide⟩

theorem store_listed_cluttered :
    let saved := SavedCharacter.ofCharacter (wanderer "Élan d'Or") noon
    clutteredDisk.IsMap ∧ ∃ fs' saves,
      store clutteredDisk (savePath "saves" "Élan d'Or") saved = (.ok (), fs') ∧
      list fs' "saves" = (.ok saves, fs') ∧
      (saves.filter fun info => info.path == "saves/Élan_d_Or.json") =
        [⟨"saves/Élan_d_Or.json", saved.metadata⟩] := by
  intro saved
  have hmap : clutteredDisk.IsMap := by decide +kernel
  have hpath : savePath "saves" "Élan d'Or" = "saves/Élan_d_Or.json" := by decide +kernel
  have hresult : (store clutteredDisk (savePath "saves" "Élan d'Or") saved).1 = .ok () := by
    decide +kernel
  rcases hstore : store clutteredDisk (savePath "saves" "Élan d'Or") saved with ⟨result, fs'⟩
  rw [hstore] at hresult
  obtain rfl : result = .ok () := hresult
  obtain ⟨-, here, saves, -, hlist, hfilter, -⟩ := store_listed hmap _ _ hstore
  rw [hpath, if_neg (by decide)] at hfilter
  exact ⟨hmap, fs', saves, rfl, hlist, hfilter⟩

/-- A save without a name can be read, and is not listed. -/
theorem store_nameless :
    let saved := SavedCharacter.ofCharacter (wanderer "") noon
    ∃ fs', store .empty (savePath "saves" "") saved = (.ok (), fs') ∧
      peek fs' (savePath "saves" "") = .ok saved.metadata ∧
      (list fs' "saves").1 = .ok [] := by
  intro saved
  have hresult : (store .empty (savePath "saves" "") saved).1 = .ok () := by decide +kernel
  have hlist : (list (store .empty (savePath "saves" "") saved).2 "saves").1 = .ok [] := by
    decide +kernel
  rcases hstore : store .empty (savePath "saves" "") saved with ⟨result, fs'⟩
  rw [hstore] at hresult hlist
  obtain rfl : result = .ok () := hresult
  exact ⟨fs', rfl, peek_of_store hstore, hlist⟩

/-- A save in the current directory can be read, and is not listed under the empty path. -/
theorem store_unplaced :
    let saved := SavedCharacter.ofCharacter (wanderer "Grog") noon
    ∃ fs', store .empty (savePath "" "Grog") saved = (.ok (), fs') ∧
      peek fs' (savePath "" "Grog") = .ok saved.metadata ∧
      (list fs' "").1 = .ok [] := by
  intro saved
  have hresult : (store .empty (savePath "" "Grog") saved).1 = .ok () := by decide +kernel
  rcases hstore : store .empty (savePath "" "Grog") saved with ⟨result, fs'⟩
  rw [hstore] at hresult
  obtain rfl : result = .ok () := hresult
  exact ⟨fs', rfl, peek_of_store hstore, by rw [list_empty]⟩

end Tabletop.Save
