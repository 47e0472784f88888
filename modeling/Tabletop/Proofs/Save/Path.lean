import Mathlib.Tactic.Lemma
import Tabletop.Save.FileSystem
import Tabletop.Save.Path

/-!
# Which names share a file

The path of a save is the path of the directory with one more name after it.  Nothing in the name of
a character can change that: what could lead elsewhere, a separator or a name made of dots, is no
letter and no digit, so it is not kept (`isChild_savePath`, `exists_stem`).

What is not kept is lost.  Two names have one file when they differ only in characters that are
neither letters nor digits (`LookAlike`), and in no other case (`savePath_eq_iff`).
-/

namespace Tabletop.Save

open Tabletop.Text

variable {dir file a b : String} {c d : Char}

/-! ## Paths of the files in a directory -/

lemma splitPath_ne_nil (cs : List Char) : splitPath cs ≠ [] := by
  cases cs with
  | nil => simp [splitPath]
  | cons c cs =>
      unfold splitPath
      split
      · simp
      · split <;> simp

lemma splitPath_append_slash (cs ds : List Char) :
    splitPath (cs ++ '/' :: ds) = splitPath cs ++ splitPath ds := by
  induction cs with
  | nil => simp [splitPath]
  | cons c cs ih =>
      rw [List.cons_append, splitPath, splitPath, ih]
      by_cases hc : c = '/'
      · simp [hc]
      · rw [if_neg hc, if_neg hc]
        cases hsplit : splitPath cs with
        | nil => exact absurd hsplit (splitPath_ne_nil cs)
        | cons piece pieces => simp

lemma splitPath_of_notMem {cs : List Char} (h : '/' ∉ cs) : splitPath cs = [cs] := by
  induction cs with
  | nil => rfl
  | cons c cs ih =>
      obtain ⟨hc, hcs⟩ := List.ne_and_not_mem_of_not_mem_cons h
      rw [splitPath, if_neg hc.symm, ih hcs]

lemma route_of_notMem (h : '/' ∉ file.toList) : route file = [file] := by
  rw [route, splitPath_of_notMem h]
  simp

lemma route_append_slash (a b : String) : route (a ++ "/" ++ b) = route a ++ route b := by
  have hslash : (a ++ "/" ++ b).toList = a.toList ++ '/' :: b.toList := by simp
  rw [route, hslash, splitPath_append_slash, List.map_append]
  rfl

/-- No path but the empty one has nothing but an empty name. -/
lemma route_ne_of_ne_empty (hdir : dir ≠ "") : route dir ≠ [""] := by
  obtain ⟨c, cs, hcs⟩ := List.exists_cons_of_ne_nil (show dir.toList ≠ [] by simpa using hdir)
  rw [route, hcs, splitPath]
  split
  · simp [splitPath_ne_nil]
  · split <;> simp

/-- A file in a directory is reached through the names of the directory, apart from an empty one at
their end. -/
lemma route_childPath (hfile : '/' ∉ file.toList) (dir : String) :
    ∃ front, route (childPath dir file) = front ++ [file] ∧
      (route dir = front ∨ route dir = front ++ [""]) := by
  unfold childPath
  split
  · rename_i hdir
    simp only [Bool.or_eq_true, String.isEmpty_iff, beq_iff_eq, List.getLast?_eq_some_iff] at hdir
    rcases hdir with rfl | ⟨cs, hcs⟩
    -- The empty directory, and one with a slash at its end, have an empty last name of their own.
    · exact ⟨[], by simp [route_of_notMem hfile], .inr rfl⟩
    · obtain rfl : dir = String.ofList cs ++ "/" := String.toList_inj.1 (by simpa using hcs)
      have hdir := route_append_slash (String.ofList cs) ""
      rw [String.append_empty] at hdir
      exact ⟨route (String.ofList cs), by rw [route_append_slash, route_of_notMem hfile],
        .inr hdir⟩
  · exact ⟨route dir, by rw [route_append_slash, route_of_notMem hfile], .inl rfl⟩

lemma childPath_injective (dir : String) : Function.Injective (childPath dir) := by
  intro a b h
  unfold childPath at h
  split at h <;> simpa using h

/-- The names a path leads through, one after the other.  Slashes in a row and slashes at the ends
separate nothing. -/
def pathNames (path : String) : List String :=
  (route path).filter (· != "")

/-- Whether a path starts at the root, whatever the current directory is. -/
def isAbsolute (path : String) : Bool :=
  path.toList.head? == some '/'

/-- A path to an entry of a directory: it starts where the path of the directory starts, leads
through the names of that path, and then to the entry, which is no step that stays or goes back. -/
structure IsChild (dir file path : String) : Prop where
  start : isAbsolute path = isAbsolute dir
  names : pathNames path = pathNames dir ++ [file]
  entry : isEntryName file = true

lemma pathNames_childPath (hslash : '/' ∉ file.toList) (hfile : file ≠ "") (dir : String) :
    pathNames (childPath dir file) = pathNames dir ++ [file] := by
  obtain ⟨front, hroute, hdir⟩ := route_childPath hslash dir
  have hnames : pathNames dir = front.filter (· != "") := by
    rcases hdir with hdir | hdir <;> simp [pathNames, hdir]
  rw [hnames, pathNames, hroute]
  simp [hfile]

lemma isAbsolute_childPath (hslash : '/' ∉ file.toList) (dir : String) :
    isAbsolute (childPath dir file) = isAbsolute dir := by
  by_cases hdir : dir = ""
  · subst hdir
    have hfile : file.toList.head? ≠ some '/' := fun h => hslash (List.mem_of_mem_head? h)
    simpa [isAbsolute, childPath] using hfile
  · have hhead : ∀ rest : String, isAbsolute (dir ++ rest) = isAbsolute dir := by
      intro rest
      obtain ⟨c, cs, hcs⟩ := List.exists_cons_of_ne_nil (show dir.toList ≠ [] by simpa using hdir)
      rw [isAbsolute, isAbsolute, String.toList_append, hcs]
      rfl
    unfold childPath
    split
    · exact hhead file
    · rw [String.append_assoc]
      exact hhead _

/-! ## Characters of file names -/

/-- No underscore, no separator and no dot is a letter or a digit. -/
lemma isAlphanumeric_punctuation : isAlphanumeric '_' = false ∧ isAlphanumeric '/' = false ∧
    isAlphanumeric '\\' = false ∧ isAlphanumeric '.' = false := by
  decide +kernel

lemma fileChar_of_kept (h : isAlphanumeric c = true) : fileChar c = c :=
  if_pos h

lemma fileChar_of_replaced (h : isAlphanumeric c = false) : fileChar c = '_' :=
  if_neg (by simp [h])

lemma ne_of_kept (hc : isAlphanumeric c = true) (hd : isAlphanumeric d = false) : c ≠ d := by
  rintro rfl
  exact Bool.false_ne_true (hd.symm.trans hc)

/-- What is not kept stands in no file name, but for the underscore. -/
lemma fileChar_ne (hd : isAlphanumeric d = false) (hunderscore : d ≠ '_') : fileChar c ≠ d := by
  cases hc : isAlphanumeric c with
  | true =>
      rw [fileChar_of_kept hc]
      exact ne_of_kept hc hd
  | false =>
      rw [fileChar_of_replaced hc]
      exact hunderscore.symm

/-- Two characters become one when they are one, or when neither is kept. -/
lemma fileChar_eq_iff :
    fileChar c = fileChar d ↔ c = d ∨ isAlphanumeric c = false ∧ isAlphanumeric d = false := by
  -- An underscore is not kept, so it stands in no file name for itself.
  obtain ⟨hunderscore, -⟩ := isAlphanumeric_punctuation
  cases hc : isAlphanumeric c with
  | true =>
      rw [fileChar_of_kept hc]
      cases hd : isAlphanumeric d with
      | true => simp [fileChar_of_kept hd]
      | false => simp [fileChar_of_replaced hd, ne_of_kept hc hunderscore, ne_of_kept hc hd]
  | false =>
      rw [fileChar_of_replaced hc]
      cases hd : isAlphanumeric d with
      | true =>
          simp [fileChar_of_kept hd, (ne_of_kept hd hunderscore).symm, (ne_of_kept hd hc).symm]
      | false => simp [fileChar_of_replaced hd]

/-! ## File names -/

lemma fileName_eq (name : String) :
    fileName name = String.ofList (name.toList.map fileChar) ++ ".json" :=
  String.toList_inj.1 (by simp [fileName])

lemma fileName_eq_append_iff {name stem : String} :
    fileName name = stem ++ ".json" ↔ String.ofList (name.toList.map fileChar) = stem := by
  rw [fileName_eq]
  simp

lemma notMem_map_fileChar (cs : List Char) (hd : isAlphanumeric d = false)
    (hunderscore : d ≠ '_') : d ∉ cs.map fileChar := by
  rw [List.mem_map, not_exists]
  exact fun c hc => fileChar_ne hd hunderscore hc.2

/-- In front of `.json` a file name has neither separators nor dots. -/
lemma exists_stem (name : String) :
    ∃ stem, fileName name = stem ++ ".json" ∧
      '/' ∉ stem.toList ∧ '\\' ∉ stem.toList ∧ '.' ∉ stem.toList := by
  obtain ⟨-, hslash, hbackslash, hdot⟩ := isAlphanumeric_punctuation
  refine ⟨_, fileName_eq name, ?_⟩
  rw [String.toList_ofList]
  exact ⟨notMem_map_fileChar _ hslash (by decide), notMem_map_fileChar _ hbackslash (by decide),
    notMem_map_fileChar _ hdot (by decide)⟩

lemma slash_notMem_fileName (name : String) : '/' ∉ (fileName name).toList := by
  obtain ⟨stem, hname, hslash, -⟩ := exists_stem name
  rw [hname, String.toList_append, List.mem_append, not_or]
  exact ⟨hslash, by decide⟩

lemma isEntryName_fileName (name : String) : isEntryName (fileName name) = true := by
  have hlast : (fileName name).toList.getLast? = some 'n' := by simp [fileName]
  have hne : ∀ step : String, step.toList.getLast? ≠ some 'n' → fileName name ≠ step :=
    fun step hstep h => hstep (h ▸ hlast)
  simp [isEntryName, isIdle, hne "" (by decide), hne "." (by decide), hne ".." (by decide)]

/-- The path of a save leads directly into the directory, to the file that is named after it. -/
lemma isChild_savePath (dir name : String) : IsChild dir (fileName name) (savePath dir name) where
  start := isAbsolute_childPath (slash_notMem_fileName name) dir
  names := by
    refine pathNames_childPath (slash_notMem_fileName name) ?_ dir
    simp [fileName_eq]
  entry := isEntryName_fileName name

/-- A name that would lead out of the directory does not. -/
example : savePath "saves" "../../etc/passwd" = "saves/______etc_passwd.json" := by
  decide +kernel

/-! ## Names that look alike -/

/-- Two names that the files cannot tell apart: they are equally long, and wherever they differ
neither has a letter or a digit. -/
structure LookAlike (a b : String) : Prop where
  length : a.length = b.length
  chars : ∀ (i : Nat) (c d : Char), a.toList[i]? = some c → b.toList[i]? = some d →
    c = d ∨ isAlphanumeric c = false ∧ isAlphanumeric d = false

lemma lookAlike_iff : LookAlike a b ↔ a.toList.map fileChar = b.toList.map fileChar := by
  constructor
  · intro h
    refine List.ext_getElem ?_ fun i hi hi' => ?_
    · rw [List.length_map, List.length_map, String.length_toList, String.length_toList, h.length]
    · rw [List.length_map] at hi hi'
      rw [List.getElem_map, List.getElem_map]
      exact fileChar_eq_iff.2
        (h.chars i _ _ (List.getElem?_eq_getElem hi) (List.getElem?_eq_getElem hi'))
  · intro h
    have hlength := congrArg List.length h
    rw [List.length_map, List.length_map, String.length_toList, String.length_toList] at hlength
    refine ⟨hlength, fun i c d hc hd => ?_⟩
    have hi : (a.toList.map fileChar)[i]? = (b.toList.map fileChar)[i]? := by rw [h]
    rw [List.getElem?_map, List.getElem?_map, hc, hd] at hi
    exact fileChar_eq_iff.1 (Option.some.inj hi)

instance (a b : String) : Decidable (LookAlike a b) :=
  decidable_of_iff _ lookAlike_iff.symm

lemma fileName_eq_iff : fileName a = fileName b ↔ LookAlike a b := by
  rw [lookAlike_iff, fileName_eq b, fileName_eq_append_iff, String.ofList_inj]

/-- **Names that share a file** are those that look alike. -/
lemma savePath_eq_iff : savePath dir a = savePath dir b ↔ LookAlike a b :=
  (childPath_injective dir).eq_iff.trans fileName_eq_iff

/-- Paths that lead through the same names do not differ in slashes either. -/
lemma pathNames_savePath_eq_iff :
    pathNames (savePath dir a) = pathNames (savePath dir b) ↔ LookAlike a b := by
  rw [(isChild_savePath dir a).names, (isChild_savePath dir b).names, List.append_cancel_left_eq,
    List.singleton_inj, fileName_eq_iff]

end Tabletop.Save
