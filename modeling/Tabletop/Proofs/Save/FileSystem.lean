import Mathlib.Data.List.Nodup
import Mathlib.Tactic.Lemma
import Tabletop.Save.Directory

/-!
# Files are where they were written

A file that was written is found again under the same path, with the same content, and in the
directory it was written to.  What could stand against it is that writing changes the very map that
paths are walked through.  It changes one location, and no directory: a walk that led somewhere
passed through directories only, so it still leads there afterwards (`keeps_put`, `Keeps.walk`).

* `Written` says where the content stands after an accepted write, and that all else is as it was
  but for new directories; `exists_of_writeWithDirs` gives it for every accepted write.  A write
  that is refused leaves no more than directories behind (`addsDirectories_of_refused`).
* `read_writeWithDirs`: what is written with the directories on the way is read again.
* `mem_childNames_iff`: a directory holds what there is under its location.
* `IsMap` says that no location is listed twice.  Every change keeps it (`isMap_writeWithDirs`), and
  then no directory holds a name twice (`nodup_childNames`).

Saves are files, so a save that was stored is read as the document it was stored as
(`read_of_store`).
-/

namespace Tabletop.Save

/-- A step of an operation that succeeds succeeds itself. -/
lemma bind_eq_ok_iff {ε α β : Type} {x : Except ε α} {f : α → Except ε β} {b : β} :
    (x >>= f) = .ok b ↔ ∃ a, x = .ok a ∧ f a = .ok b := by
  cases x <;> simp [bind, Except.bind]

namespace FileSystem

variable {fs fs' : FileSystem} {here there location other : Location} {name : String}
  {names front back : Route} {node : Node} {content path : String}

/-! ## Looking at one location -/

/-- Whether no location is listed twice. -/
def IsMap (fs : FileSystem) : Prop :=
  (fs.entries.map Prod.fst).Nodup

instance (fs : FileSystem) : Decidable fs.IsMap :=
  inferInstanceAs (Decidable (fs.entries.map Prod.fst).Nodup)

lemma isMap_put (h : fs.IsMap) (location : Location) (node : Node) :
    (fs.put location node).IsMap := by
  refine List.nodup_cons.2 ⟨?_, h.sublist (List.filter_sublist.map _)⟩
  simp

lemma lookup_filter_ne (hother : other ≠ location) (entries : List (Location × Node)) :
    (entries.filter fun entry => entry.1 != location).lookup other = entries.lookup other := by
  induction entries with
  | nil => rfl
  | cons entry entries ih =>
      obtain ⟨l, node⟩ := entry
      by_cases hl : l = location
      · have hne : (other == l) = false := by simpa [hl] using hother
        simp [hl, ih, List.lookup_cons, hl ▸ hne]
      · simp [hl, ih, List.lookup_cons]

/-- Something put at a location is found there, and all else where it was. -/
lemma node?_put (hlocation : location ≠ []) :
    (fs.put location node).node? other =
      if other = location then some node else fs.node? other := by
  unfold node? put
  by_cases hother : other = location
  · simp [hother, hlocation]
  · have hne : (other == location) = false := by simpa using hother
    rw [if_neg hother, List.lookup_cons, hne, lookup_filter_ne hother]

lemma checkDirectory_eq_ok_iff :
    fs.checkDirectory here = .ok () ↔ fs.node? here = some .directory := by
  unfold checkDirectory
  split <;> simp_all

/-! ## Walking -/

lemma walk_cons_eq_ok_iff :
    fs.walk here (name :: names) = .ok there ↔
      fs.node? here = some .directory ∧
        ∃ next, fs.step here name = .ok next ∧ fs.walk next names = .ok there := by
  rw [walk, bind_eq_ok_iff, ← checkDirectory_eq_ok_iff]
  simp only [bind_eq_ok_iff]
  exact ⟨fun ⟨_, h⟩ => h, fun h => ⟨(), h⟩⟩

/-- A walk along two routes is a walk along the one and then along the other. -/
lemma walk_append_eq_ok_iff :
    fs.walk here (front ++ back) = .ok there ↔
      ∃ mid, fs.walk here front = .ok mid ∧ fs.walk mid back = .ok there := by
  induction front generalizing here with
  | nil => simp [walk]
  | cons name front ih =>
      simp only [List.cons_append, walk_cons_eq_ok_iff, ih]
      constructor
      · rintro ⟨hhere, next, hstep, mid, hfront, hback⟩
        exact ⟨mid, ⟨hhere, next, hstep, hfront⟩, hback⟩
      · rintro ⟨mid, ⟨hhere, next, hstep, hfront⟩, hback⟩
        exact ⟨hhere, next, hstep, mid, hfront, hback⟩

lemma walk_singleton_eq_ok_iff :
    fs.walk here [name] = .ok there ↔
      fs.node? here = some .directory ∧ fs.step here name = .ok there := by
  rw [walk_cons_eq_ok_iff]
  simp only [walk, Except.ok.injEq, exists_eq_right]

/-- A step to the name of an entry leads to what bears that name. -/
lemma step_of_isEntryName (hname : isEntryName name = true)
    (hsize : name.utf8ByteSize ≤ maxNameSize) :
    fs.step here name =
      if (fs.node? (here ++ [name])).isSome then .ok (here ++ [name]) else .error .notFound := by
  obtain ⟨hidle, hback⟩ : isIdle name = false ∧ name ≠ ".." := by simpa [isEntryName] using hname
  rw [step, hidle, if_neg Bool.false_ne_true, if_neg hback, if_neg (Nat.not_lt.2 hsize)]

/-- A step to the name of an entry leads nowhere else. -/
lemma eq_of_step (hname : isEntryName name = true) (h : fs.step here name = .ok there) :
    there = here ++ [name] ∧ name.utf8ByteSize ≤ maxNameSize := by
  by_cases hsize : name.utf8ByteSize ≤ maxNameSize
  · rw [step_of_isEntryName hname hsize] at h
    split at h
    · exact ⟨(Except.ok.inj h).symm, hsize⟩
    · exact nomatch h
  · obtain ⟨hidle, hback⟩ : isIdle name = false ∧ name ≠ ".." := by
      simpa [isEntryName] using hname
    rw [step, hidle, if_neg Bool.false_ne_true, if_neg hback, if_pos (Nat.not_le.1 hsize)] at h
    exact nomatch h

/-- Where a step finds nothing there is nothing. -/
lemma node?_of_step (h : fs.step here name = .error .notFound) :
    fs.node? (here ++ [name]) = none := by
  unfold step at h
  by_contra hfound
  rw [if_pos (Option.isSome_iff_ne_none.2 hfound)] at h
  split at h
  · exact nomatch h
  · split at h
    · exact nomatch h
    · split at h <;> exact nomatch h

/-- Whatever is in a file system is something in another, and its directories are directories there,
so that every walk through the one is a walk through the other. -/
structure Keeps (fs fs' : FileSystem) : Prop where
  found : ∀ location, (fs.node? location).isSome = true → (fs'.node? location).isSome = true
  directory : ∀ location, fs.node? location = some .directory →
    fs'.node? location = some .directory

namespace Keeps

lemma trans {mid : FileSystem} (h : fs.Keeps mid) (h' : mid.Keeps fs') : fs.Keeps fs' where
  found location hfound := h'.found location (h.found location hfound)
  directory location hdirectory := h'.directory location (h.directory location hdirectory)

/-- A step that leads somewhere still leads there. -/
lemma step (hkeeps : fs.Keeps fs') (h : fs.step here name = .ok there) :
    fs'.step here name = .ok there := by
  unfold FileSystem.step at h ⊢
  by_cases hidle : isIdle name = true
  · rwa [if_pos hidle] at h ⊢
  · rw [if_neg hidle] at h ⊢
    by_cases hback : name = ".."
    · rwa [if_pos hback] at h ⊢
    · rw [if_neg hback] at h ⊢
      by_cases hsize : maxNameSize < name.utf8ByteSize
      · rwa [if_pos hsize] at h ⊢
      · rw [if_neg hsize] at h ⊢
        by_cases hfound : (fs.node? (here ++ [name])).isSome = true
        · rw [if_pos hfound] at h
          rwa [if_pos (hkeeps.found _ hfound)]
        · rw [if_neg hfound] at h
          exact nomatch h

/-- A walk that leads somewhere still leads there. -/
lemma walk (hkeeps : fs.Keeps fs') (h : fs.walk here names = .ok there) :
    fs'.walk here names = .ok there := by
  induction names generalizing here with
  | nil => exact h
  | cons name names ih =>
      obtain ⟨hhere, next, hstep, hnext⟩ := walk_cons_eq_ok_iff.1 h
      exact walk_cons_eq_ok_iff.2 ⟨hkeeps.directory _ hhere, next, hkeeps.step hstep, ih hnext⟩

end Keeps

/-- Something put where there was no directory leaves every walk as it was. -/
lemma keeps_put (hlocation : fs.node? location ≠ some .directory) (node : Node) :
    fs.Keeps (fs.put location node) := by
  have hroot : location ≠ [] := by
    rintro rfl
    exact hlocation rfl
  refine ⟨fun other hfound => ?_, fun other hother => ?_⟩
  · rw [node?_put hroot]
    split
    · rfl
    · exact hfound
  · have hne : other ≠ location := by
      rintro rfl
      exact hlocation hother
    rw [node?_put hroot, if_neg hne]
    exact hother

lemma checkFile_eq_ok_iff :
    names.checkFile = .ok () ↔ names ≠ [""] ∧ names.check = .ok () := by
  unfold Route.checkFile
  split
  · rename_i hempty
    simp [hempty]
  · rename_i hempty
    simp [hempty]

/-- The name of an entry is not empty, so no path to it is. -/
lemma append_ne_of_isEntryName (hname : isEntryName name = true) (front : Route) :
    front ++ [name] ≠ [""] := by
  intro h
  obtain rfl : name = "" := by simpa using congrArg List.getLast? h
  exact absurd hname (by decide)

lemma locate_eq_ok_iff :
    fs.locate names = .ok there ↔
      names ≠ [""] ∧ names.check = .ok () ∧ fs.walk [] names = .ok there := by
  rw [locate, bind_eq_ok_iff, ← and_assoc, ← checkFile_eq_ok_iff]
  exact ⟨fun ⟨_, h⟩ => h, fun h => ⟨(), h⟩⟩

lemma enter_eq_ok_iff :
    fs.enter names = .ok there ↔
      names.check = .ok () ∧ fs.walk [] names = .ok there ∧
        fs.node? there = some .directory := by
  simp only [enter, bind_eq_ok_iff, pure, Except.pure, Except.ok.injEq, ← checkDirectory_eq_ok_iff]
  constructor
  · rintro ⟨_, hcheck, _, hwalk, _, hdirectory, rfl⟩
    exact ⟨hcheck, hwalk, hdirectory⟩
  · rintro ⟨hcheck, hwalk, hdirectory⟩
    exact ⟨(), hcheck, there, hwalk, (), hdirectory, rfl⟩

/-- What is read is the content of the file at the end of the path. -/
lemma read_eq_ok_iff :
    fs.read path = .ok content ↔
      ∃ there, fs.locate (route path) = .ok there ∧ fs.node? there = some (.file content) := by
  rw [read, bind_eq_ok_iff]
  refine exists_congr fun there => and_congr_right fun _ => ?_
  split <;> simp_all [pure, Except.pure, throw, throwThe, MonadExceptOf.throw]

/-- A file that is left as it is can still be read where it could be. -/
lemma Keeps.read (hkeeps : fs.Keeps fs') (h : fs.read path = .ok content)
    (hsame : ∀ there, fs.locate (route path) = .ok there → fs.node? there = some (.file content) →
      fs'.node? there = some (.file content)) :
    fs'.read path = .ok content := by
  obtain ⟨there, hlocate, hnode⟩ := read_eq_ok_iff.1 h
  obtain ⟨hpath, hcheck, hwalk⟩ := locate_eq_ok_iff.1 hlocate
  exact read_eq_ok_iff.2
    ⟨there, locate_eq_ok_iff.2 ⟨hpath, hcheck, hkeeps.walk hwalk⟩, hsame there hlocate hnode⟩

/-! ## Making directories -/

/-- Whether a file system is another with directories added where there was nothing. -/
def AddsDirectories (fs fs' : FileSystem) : Prop :=
  ∀ location, fs'.node? location = fs.node? location ∨
    fs.node? location = none ∧ fs'.node? location = some .directory

namespace AddsDirectories

lemma refl (fs : FileSystem) : fs.AddsDirectories fs :=
  fun _ => .inl rfl

lemma trans {mid : FileSystem} (h : fs.AddsDirectories mid) (h' : mid.AddsDirectories fs') :
    fs.AddsDirectories fs' := by
  intro location
  rcases h' location with hsame' | ⟨hnone', hadded'⟩
  · rw [hsame']
    exact h location
  · rcases h location with hsame | ⟨hnone, -⟩
    · exact .inr ⟨hsame ▸ hnone', hadded'⟩
    · exact .inr ⟨hnone, hadded'⟩

/-- What was there is there as it was. -/
lemma node?_of_some (h : fs.AddsDirectories fs') (hnode : fs.node? location = some node) :
    fs'.node? location = some node := by
  rcases h location with hsame | ⟨hnone, -⟩
  · exact hsame.trans hnode
  · exact nomatch hnone.symm.trans hnode

lemma keeps (h : fs.AddsDirectories fs') : fs.Keeps fs' := by
  refine ⟨fun location hfound => ?_, fun location => h.node?_of_some⟩
  obtain ⟨node, hnode⟩ := Option.isSome_iff_exists.1 hfound
  exact Option.isSome_iff_exists.2 ⟨node, h.node?_of_some hnode⟩

end AddsDirectories

lemma addsDirectories_put (h : fs.node? location = none) :
    fs.AddsDirectories (fs.put location .directory) := by
  have hroot : location ≠ [] := by
    rintro rfl
    exact nomatch h
  intro other
  rw [node?_put hroot]
  split
  · rename_i hother
    exact .inr ⟨hother ▸ h, rfl⟩
  · exact .inl rfl

lemma addsDirectories_makeDirsFrom (fs : FileSystem) (here : Location) (names : Route) :
    fs.AddsDirectories (fs.makeDirsFrom here names) := by
  induction names generalizing fs here with
  | nil => exact .refl fs
  | cons name names ih =>
      unfold makeDirsFrom
      split
      · exact .refl fs
      · split
        · exact ih fs _
        · rename_i hstep
          exact (addsDirectories_put (node?_of_step hstep)).trans (ih _ _)
        · exact .refl fs

lemma addsDirectories_makeDirs (fs : FileSystem) (names : Route) :
    fs.AddsDirectories (fs.makeDirs names) := by
  unfold makeDirs
  split
  · exact addsDirectories_makeDirsFrom fs _ _
  · exact .refl fs

/-! ## Writing -/

/-- Where a file is put: in the directory that the names in front of the last one lead to. -/
lemma exists_of_place (h : fs.place names = .ok location) :
    ∃ front name here, names = front ++ [name] ∧ names.check = .ok () ∧
      fs.walk [] front = .ok here ∧ fs.node? here = some .directory ∧
      isEntryName name = true ∧ name.utf8ByteSize ≤ maxNameSize ∧ location = here ++ [name] := by
  simp only [place, bind_eq_ok_iff] at h
  obtain ⟨_, hcheck, here, hwalk, _, hdirectory, h⟩ := h
  split at h
  · simp [throw, throwThe, MonadExceptOf.throw, bind, Except.bind] at h
  · rename_i hentry
    split at h
    · simp [throw, throwThe, MonadExceptOf.throw, bind, Except.bind] at h
    · rename_i hsize
      obtain rfl := Except.ok.inj h
      obtain ⟨name, hname⟩ : ∃ name, names.getLast? = some name := by
        cases hlast : names.getLast? with
        | some name => exact ⟨name, rfl⟩
        | none => simp [hlast, isEntryName, isIdle] at hentry
      simp only [hname, Option.getD_some] at hentry hsize ⊢
      refine ⟨names.dropLast, name, here, ?_, (checkFile_eq_ok_iff.1 hcheck).2, hwalk,
        checkDirectory_eq_ok_iff.1 hdirectory, by simpa using hentry, Nat.not_lt.1 hsize, rfl⟩
      exact (List.dropLast_append_getLast? name hname).symm

/-- A file is put under the last name of its path, where the names in front of it lead. -/
lemma place_of_walk (hcheck : Route.check (front ++ [name]) = .ok ())
    (hwalk : fs.walk [] front = .ok here) (hhere : fs.node? here = some .directory)
    (hname : isEntryName name = true) (hsize : name.utf8ByteSize ≤ maxNameSize) :
    fs.place (front ++ [name]) = .ok (here ++ [name]) := by
  have hfile := checkFile_eq_ok_iff.2 ⟨append_ne_of_isEntryName hname front, hcheck⟩
  simp [place, bind, Except.bind, hfile, hwalk, checkDirectory_eq_ok_iff.2 hhere, hname,
    Nat.not_lt.2 hsize, pure, Except.pure]

/-- Making directories keeps every location listed once. -/
lemma isMap_makeDirsFrom (h : fs.IsMap) : (fs.makeDirsFrom here names).IsMap := by
  induction names generalizing fs here with
  | nil => exact h
  | cons name names ih =>
      unfold makeDirsFrom
      split
      · exact h
      · split
        · exact ih h
        · exact ih (isMap_put h _ _)
        · exact h

lemma isMap_makeDirs (h : fs.IsMap) : (fs.makeDirs names).IsMap := by
  unfold makeDirs
  split
  · exact isMap_makeDirsFrom h
  · exact h

lemma exists_of_write (h : fs.write path content = .ok fs') :
    ∃ location, fs.place (route path) = .ok location ∧ fs.node? location ≠ some .directory ∧
      fs' = fs.put location (.file content) := by
  simp only [write, bind_eq_ok_iff] at h
  obtain ⟨location, hplace, h⟩ := h
  split at h
  · simp [throw, throwThe, MonadExceptOf.throw] at h
  · rename_i hnode
    obtain rfl := Except.ok.inj h
    exact ⟨location, hplace, hnode, rfl⟩

/-- A file is written wherever it can be put and no directory stands. -/
lemma write_of_place (hplace : fs.place (route path) = .ok location)
    (hnode : fs.node? location ≠ some .directory) (content : String) :
    fs.write path content = .ok (fs.put location (.file content)) := by
  refine bind_eq_ok_iff.2 ⟨location, hplace, ?_⟩
  split
  · rename_i hdirectory
    exact absurd hdirectory hnode
  · rfl

lemma write_of_writeWithDirs (h : fs.writeWithDirs path content = (.ok (), fs')) :
    (fs.makeDirs (route path).parent).write path content = .ok fs' := by
  unfold writeWithDirs at h
  dsimp only at h
  split at h
  · rename_i hwrite
    obtain ⟨-, rfl⟩ := Prod.mk.inj h
    exact hwrite
  · simp at h

lemma writeWithDirs_of_write (h : (fs.makeDirs (route path).parent).write path content = .ok fs') :
    fs.writeWithDirs path content = (.ok (), fs') := by
  unfold writeWithDirs
  dsimp only
  rw [h]

/-- What cannot be written leaves no more than directories behind. -/
lemma addsDirectories_of_refused {e : FileError}
    (h : fs.writeWithDirs path content = (.error e, fs')) : fs.AddsDirectories fs' := by
  unfold writeWithDirs at h
  dsimp only at h
  split at h
  · simp at h
  · obtain ⟨-, rfl⟩ := Prod.mk.inj h
    exact addsDirectories_makeDirs fs _

lemma isMap_writeWithDirs (hfs : fs.IsMap) (h : fs.writeWithDirs path content = (.ok (), fs')) :
    fs'.IsMap := by
  obtain ⟨location, -, -, rfl⟩ := exists_of_write (write_of_writeWithDirs h)
  exact isMap_put (isMap_makeDirs hfs) _ _

/-- Where a file was written, and what that changed: the names in front of the last one lead to a
directory, the file is in there under the last name, and everywhere else there is what there was,
or a new directory. -/
structure Written (fs fs' : FileSystem) (path content : String) (front : Route) (name : String)
    (here : Location) : Prop where
  names : route path = front ++ [name]
  check : (route path).check = .ok ()
  walk : fs'.walk [] front = .ok here
  directory : fs'.node? here = some .directory
  entry : isEntryName name = true
  size : name.utf8ByteSize ≤ maxNameSize
  file : fs'.node? (here ++ [name]) = some (.file content)
  keeps : fs.Keeps fs'
  elsewhere : ∀ location, location ≠ here ++ [name] → fs'.node? location = fs.node? location ∨
    fs.node? location = none ∧ fs'.node? location = some .directory

lemma exists_of_writeWithDirs (h : fs.writeWithDirs path content = (.ok (), fs')) :
    ∃ front name here, Written fs fs' path content front name here := by
  obtain ⟨location, hplace, hnode, rfl⟩ := exists_of_write (write_of_writeWithDirs h)
  -- All of this holds when the directories have been made, and has to be carried over the write.
  obtain ⟨front, name, here, hroute, hcheck, hwalk, hhere, hentry, hsize, rfl⟩ :=
    exists_of_place hplace
  have hmade := addsDirectories_makeDirs fs (route path).parent
  have hkeeps := keeps_put hnode (.file content)
  have hroot : here ++ [name] ≠ [] := by simp
  refine ⟨front, name, here,
    { names := hroute, check := hcheck, walk := hkeeps.walk hwalk,
      directory := hkeeps.directory _ hhere, entry := hentry, size := hsize, file := ?_,
      keeps := hmade.keeps.trans hkeeps, elsewhere := fun location hne => ?_ }⟩
  · rw [node?_put hroot, if_pos rfl]
  · rw [node?_put hroot, if_neg hne]
    exact hmade location

/-- **Written files are read.** -/
lemma read_writeWithDirs (h : fs.writeWithDirs path content = (.ok (), fs')) :
    fs'.read path = .ok content := by
  obtain ⟨front, name, here, hw⟩ := exists_of_writeWithDirs h
  refine read_eq_ok_iff.2 ⟨_, locate_eq_ok_iff.2 ⟨?_, hw.check, ?_⟩, hw.file⟩
  · rw [hw.names]
    exact append_ne_of_isEntryName hw.entry front
  rw [hw.names, walk_append_eq_ok_iff]
  refine ⟨here, hw.walk, walk_singleton_eq_ok_iff.2 ⟨hw.directory, ?_⟩⟩
  rw [step_of_isEntryName hw.entry hw.size, hw.file]
  rfl

/-! ## Directories -/

lemma lookup_isSome_iff {entries : List (Location × Node)} :
    (entries.lookup location).isSome = true ↔ location ∈ entries.map Prod.fst := by
  induction entries with
  | nil => simp
  | cons entry entries ih =>
      obtain ⟨l, node⟩ := entry
      rw [List.lookup_cons]
      by_cases hl : location = l
      · simp [hl]
      · have hne : (location == l) = false := by simpa using hl
        simp [hne, ih, hl]

/-- The name under which a location stands in a directory. -/
def childName? (here location : Location) : Option String :=
  match location.getLast? with
  | some name => if location.dropLast = here then some name else none
  | none => none

lemma childName?_eq_some_iff :
    childName? here location = some name ↔ location = here ++ [name] := by
  unfold childName?
  constructor
  · intro h
    split at h
    · rename_i last hlast
      split at h
      · rename_i hhere
        obtain rfl := Option.some.inj h
        rw [← hhere, List.dropLast_append_getLast? last hlast]
      · simp at h
    · simp at h
  · rintro rfl
    simp

lemma childNames_eq (fs : FileSystem) (here : Location) :
    fs.childNames here = (fs.entries.map Prod.fst).filterMap (childName? here) := by
  rw [List.filterMap_map]
  rfl

/-- A directory holds what there is under its location. -/
lemma mem_childNames_iff :
    name ∈ fs.childNames here ↔ (fs.node? (here ++ [name])).isSome = true := by
  have hroot : (here ++ [name]).isEmpty = false := by simp
  rw [node?, hroot, if_neg Bool.false_ne_true, lookup_isSome_iff, childNames_eq,
    List.mem_filterMap]
  simp only [childName?_eq_some_iff, exists_eq_right]

/-- No directory holds a name twice. -/
lemma nodup_childNames (h : fs.IsMap) (here : Location) : (fs.childNames here).Nodup := by
  rw [childNames_eq]
  refine List.Nodup.filterMap ?_ h
  intro l l' name hl hl'
  rw [childName?_eq_some_iff.1 hl, childName?_eq_some_iff.1 hl']

end FileSystem

/-! ## Saves -/

variable {fs fs' : FileSystem} {path : String} {saved : SavedCharacter}

/-- Storing a save writes its document. -/
lemma writeWithDirs_of_store (h : store fs path saved = (.ok (), fs')) :
    fs.writeWithDirs path saved.document = (.ok (), fs') := by
  rcases hwrite : fs.writeWithDirs path saved.document with ⟨result, written⟩
  rw [store, hwrite] at h
  obtain ⟨hresult, rfl⟩ := Prod.mk.inj h
  cases result with
  | ok _ => rfl
  | error e => simp [Except.mapError] at hresult

lemma store_of_writeWithDirs (h : fs.writeWithDirs path saved.document = (.ok (), fs')) :
    store fs path saved = (.ok (), fs') := by
  rw [store, h]
  rfl

/-- A save that is refused leaves no more than directories behind. -/
lemma addsDirectories_of_store {e : SaveError} (h : store fs path saved = (.error e, fs')) :
    fs.AddsDirectories fs' := by
  rcases hwrite : fs.writeWithDirs path saved.document with ⟨result, written⟩
  rw [store, hwrite] at h
  obtain ⟨hresult, rfl⟩ := Prod.mk.inj h
  cases result with
  | ok _ => simp [Except.mapError] at hresult
  | error _ => exact FileSystem.addsDirectories_of_refused hwrite

lemma read_of_store (h : store fs path saved = (.ok (), fs')) :
    fs'.read path = .ok saved.document :=
  FileSystem.read_writeWithDirs (writeWithDirs_of_store h)

end Tabletop.Save
