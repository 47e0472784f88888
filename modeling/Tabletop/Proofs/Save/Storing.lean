import Mathlib.Algebra.Ring.Nat
import Tabletop.Proofs.Save.FileSystem
import Tabletop.Proofs.Save.Path

/-!
# What a save changes

A save that is accepted writes one file, directly in its directory, and a save that is refused
writes none; apart from that both can only have made directories (`node?_of_store`).  So what stands
in a directory under another name is read as before, and what stands there under the same name is
always replaced: where a file can be read it can be written (`read_store`).
-/

namespace Tabletop.Save

variable {fs fs' : FileSystem} {here there : Location} {dir file name other document : String}
  {front : Route} {saved : SavedCharacter}

/-! ## The directory of a file -/

lemma Route.check_eq_ok_iff {names : Route} :
    names.check = .ok () ↔
      (∀ name ∈ names, '\x00' ∉ name.toList) ∧ names.size ≤ maxPathSize := by
  have hnull : (names.any fun name => name.toList.contains '\x00') = false ↔
      ∀ name ∈ names, '\x00' ∉ name.toList := by simp
  rw [← hnull, Route.check]
  cases names.any fun name => name.toList.contains '\x00' with
  | true => simp
  | false =>
      rw [if_neg Bool.false_ne_true]
      split
      · rename_i hsize
        simp [Nat.not_le.2 hsize]
      · rename_i hsize
        simp [Nat.not_lt.1 hsize]

lemma Route.size_eq (names : Route) :
    names.size = names.length - 1 + (names.map String.utf8ByteSize).sum := by
  have hfold : ∀ (names : Route) (n : Nat),
      names.foldl (fun size name => size + name.utf8ByteSize) n =
        n + (names.map String.utf8ByteSize).sum := by
    intro names
    induction names with
    | nil => simp
    | cons name names ih =>
        intro n
        rw [List.foldl_cons, ih, List.map_cons, List.sum_cons, Nat.add_assoc]
  exact hfold names _

/-- The directory of a path that a file can have can be entered, too. -/
lemma Route.check_front (h : Route.check (front ++ [file]) = .ok ()) :
    Route.check front = .ok () ∧ Route.check (front ++ [""]) = .ok () := by
  obtain ⟨hnull, hsize⟩ := Route.check_eq_ok_iff.1 h
  simp only [Route.size_eq, List.length_append, List.length_singleton, List.map_append,
    List.map_singleton, List.sum_append, List.sum_singleton] at hsize
  have hfront : ∀ name ∈ front, '\x00' ∉ name.toList :=
    fun name hname => hnull name (List.mem_append_left _ hname)
  refine ⟨Route.check_eq_ok_iff.2 ⟨hfront, ?_⟩, Route.check_eq_ok_iff.2 ⟨?_, ?_⟩⟩
  · rw [Route.size_eq]
    omega
  · exact List.forall_mem_append.2 ⟨hfront, by simp⟩
  · simp only [Route.size_eq, List.length_append, List.length_singleton, List.map_append,
      List.map_singleton, List.sum_append, List.sum_singleton, String.utf8ByteSize_empty]
    omega

/-- An empty name at the end of a path to a directory changes nothing. -/
lemma walk_append_idle (hwalk : fs.walk [] front = .ok here)
    (hhere : fs.node? here = some .directory) : fs.walk [] (front ++ [""]) = .ok here := by
  refine FileSystem.walk_append_eq_ok_iff.2
    ⟨here, hwalk, FileSystem.walk_singleton_eq_ok_iff.2 ⟨hhere, ?_⟩⟩
  rfl

/-- Where the names in front of a file lead, there leads the path of its directory. -/
lemma enter_of_walk (hdir : route dir = front ∨ route dir = front ++ [""])
    (hcheck : Route.check (front ++ [file]) = .ok ()) (hwalk : fs.walk [] front = .ok here)
    (hhere : fs.node? here = some .directory) : fs.enter (route dir) = .ok here := by
  obtain ⟨hfront, hidle⟩ := Route.check_front hcheck
  rw [FileSystem.enter_eq_ok_iff]
  rcases hdir with hdir | hdir
  · exact hdir ▸ ⟨hfront, hwalk, hhere⟩
  · exact hdir ▸ ⟨hidle, walk_append_idle hwalk hhere, hhere⟩

/-! ## Saves -/

/-- Where a save was stored, and what that changed: the directory can be entered, the save stands in
there, and everywhere else there is what there was, or a new directory. -/
lemma exists_place_of_store (hslash : '/' ∉ file.toList)
    (h : store fs (childPath dir file) saved = (.ok (), fs')) :
    ∃ here, fs'.enter (route dir) = .ok here ∧
      fs'.node? (here ++ [file]) = some (.file saved.document) ∧ fs.Keeps fs' ∧
      ∀ location, location ≠ here ++ [file] → fs'.node? location = fs.node? location ∨
        fs.node? location = none ∧ fs'.node? location = some .directory := by
  obtain ⟨front, name, here, hw⟩ := FileSystem.exists_of_writeWithDirs (writeWithDirs_of_store h)
  obtain ⟨front', hroute, hdir⟩ := route_childPath hslash dir
  obtain ⟨rfl, hname⟩ := List.append_inj' (hroute.symm.trans hw.names) rfl
  obtain rfl : file = name := List.singleton_inj.1 hname
  exact ⟨here, enter_of_walk hdir (hroute ▸ hw.check) hw.walk hw.directory, hw.file, hw.keeps,
    hw.elsewhere⟩

/-- The path of an entry of a directory leads to nothing but what bears the name of the entry. -/
lemma exists_of_locate (hslash : '/' ∉ file.toList) (hentry : isEntryName file = true)
    (h : fs.locate (route (childPath dir file)) = .ok there) :
    ∃ front here, route (childPath dir file) = front ++ [file] ∧ fs.walk [] front = .ok here ∧
      fs.node? here = some .directory ∧ file.utf8ByteSize ≤ maxNameSize ∧
      there = here ++ [file] := by
  obtain ⟨front, hroute, -⟩ := route_childPath hslash dir
  obtain ⟨-, -, hwalk⟩ := FileSystem.locate_eq_ok_iff.1 h
  rw [hroute, FileSystem.walk_append_eq_ok_iff] at hwalk
  obtain ⟨here, hfront, hlast⟩ := hwalk
  obtain ⟨hhere, hstep⟩ := FileSystem.walk_singleton_eq_ok_iff.1 hlast
  obtain ⟨hthere, hsize⟩ := FileSystem.eq_of_step hentry hstep
  exact ⟨front, here, hroute, hfront, hhere, hsize, hthere⟩

/-- A save is accepted where a file can be read. -/
lemma exists_store_of_read (hslash : '/' ∉ file.toList) (hentry : isEntryName file = true)
    (h : fs.read (childPath dir file) = .ok document) (saved : SavedCharacter) :
    ∃ fs', store fs (childPath dir file) saved = (.ok (), fs') := by
  obtain ⟨there, hlocate, hnode⟩ := FileSystem.read_eq_ok_iff.1 h
  obtain ⟨front, here, hroute, hwalk, hhere, hsize, rfl⟩ := exists_of_locate hslash hentry hlocate
  have hcheck := (FileSystem.locate_eq_ok_iff.1 hlocate).2.1
  have hmade := FileSystem.addsDirectories_makeDirs fs (route (childPath dir file)).parent
  have hplace : (fs.makeDirs (route (childPath dir file)).parent).place
      (route (childPath dir file)) = .ok (here ++ [file]) := by
    rw [hroute] at hcheck hmade ⊢
    exact FileSystem.place_of_walk hcheck (hmade.keeps.walk hwalk) (hmade.node?_of_some hhere)
      hentry hsize
  have hfile := hmade.node?_of_some hnode
  exact ⟨_, store_of_writeWithDirs (FileSystem.writeWithDirs_of_write
    (FileSystem.write_of_place hplace (by simp [hfile]) _))⟩

/-- A file that can be read is replaced by a save under its name. -/
lemma read_store_of_read (hslash : '/' ∉ file.toList) (hentry : isEntryName file = true)
    (h : fs.read (childPath dir file) = .ok document) (saved : SavedCharacter) :
    (store fs (childPath dir file) saved).2.read (childPath dir file) = .ok saved.document := by
  obtain ⟨fs', hstore⟩ := exists_store_of_read hslash hentry h saved
  rw [hstore]
  exact read_of_store hstore

/-- A file that can be read is left alone by a save under another name in its directory, accepted or
refused. -/
lemma read_store_of_ne (hslash : '/' ∉ file.toList) (hslash' : '/' ∉ other.toList)
    (hentry : isEntryName other = true) (hne : other ≠ file)
    (h : fs.read (childPath dir other) = .ok document) (saved : SavedCharacter) :
    (store fs (childPath dir file) saved).2.read (childPath dir other) = .ok document := by
  rcases hstore : store fs (childPath dir file) saved with ⟨result, fs'⟩
  cases result with
  | error e =>
      have hadded := addsDirectories_of_store hstore
      exact hadded.keeps.read h fun _ _ => hadded.node?_of_some
  | ok _ =>
      obtain ⟨here, -, -, hkeeps, helsewhere⟩ := exists_place_of_store hslash hstore
      refine hkeeps.read h fun there hlocate hnode => ?_
      obtain ⟨-, here', -, -, -, -, rfl⟩ := exists_of_locate hslash' hentry hlocate
      have hother : here' ++ [other] ≠ here ++ [file] :=
        fun hsame => hne (List.singleton_inj.1 (List.append_inj' hsame rfl).2)
      rcases helsewhere _ hother with hsame | ⟨hnone, -⟩
      · exact hsame.trans hnode
      · exact nomatch hnone.symm.trans hnode

/-! ## Saves under the name of a character -/

/-- What a save leaves at a location: what was there, a new directory, or its document, if that is
the place of the file in the directory. -/
lemma node?_of_store {result : Except SaveError Unit}
    (h : store fs (savePath dir name) saved = (result, fs')) (location : Location) :
    fs'.node? location = fs.node? location ∨
      (fs.node? location = none ∧ fs'.node? location = some .directory) ∨
      (result = .ok () ∧ fs'.node? location = some (.file saved.document) ∧
        ∃ here, fs'.enter (route dir) = .ok here ∧ location = here ++ [fileName name]) := by
  cases result with
  | error e => exact (addsDirectories_of_store h location).imp_right .inl
  | ok _ =>
      obtain ⟨here, henter, hnode, -, helsewhere⟩ :=
        exists_place_of_store (slash_notMem_fileName name) h
      by_cases hlocation : location = here ++ [fileName name]
      · exact .inr (.inr ⟨rfl, hlocation ▸ hnode, here, henter, hlocation⟩)
      · exact (helsewhere location hlocation).imp_right .inl

/-- What can be read under a name is replaced by a save under a name that looks like it, and by no
other save in the directory. -/
lemma read_store (h : fs.read (savePath dir other) = .ok document) (name : String)
    (saved : SavedCharacter) :
    (store fs (savePath dir name) saved).2.read (savePath dir other) =
      .ok (if LookAlike other name then saved.document else document) := by
  split
  · rename_i halike
    rw [savePath_eq_iff.2 halike] at h ⊢
    exact read_store_of_read (slash_notMem_fileName name) (isEntryName_fileName name) h saved
  · rename_i halike
    exact read_store_of_ne (slash_notMem_fileName name) (slash_notMem_fileName other)
      (isEntryName_fileName other) (mt fileName_eq_iff.1 halike) h saved

end Tabletop.Save
