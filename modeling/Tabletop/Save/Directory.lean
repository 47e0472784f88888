import Tabletop.Save.FileSystem
import Tabletop.Save.Path
import Tabletop.Save.Record

/-!
# Save directories

Saving, loading and listing characters in a file system.  A listing shows the files of a directory
whose extension is `json` and whose summary can be read, in the order of the characters' names; a
directory that is missing is created.
-/

namespace Tabletop.Save

open Tabletop.Text

/-- Why saving or loading failed. -/
inductive SaveError
  /-- The file could not be reached, read or written. -/
  | file (error : FileError)
  /-- The file is no saved character. -/
  | document (error : DocumentError)
deriving DecidableEq, Repr

/-- The message of an error. -/
def SaveError.message : SaveError → String
  | .file error => "IO error: " ++ error.message
  | .document .malformed => "JSON error: not a saved character"
  | .document (.versionMismatch found) =>
    "Version mismatch: expected " ++ ofNat saveVersion.toNat ++ ", found " ++ ofNat found.toNat

/-- Writes a saved character to a path: whether that succeeded, and the file system after it. -/
def store (fs : FileSystem) (path : String) (saved : SavedCharacter) :
    Except SaveError Unit × FileSystem :=
  let (result, fs) := fs.writeWithDirs path saved.document
  (result.mapError .file, fs)

/-- The saved character at a path. -/
def load (fs : FileSystem) (path : String) : Except SaveError SavedCharacter :=
  match fs.read path with
  | .error e => .error (.file e)
  | .ok document =>
    match SavedCharacter.read document with
    | .ok saved => .ok saved
    | .error e => .error (.document e)

/-- The summary of the saved character at a path. -/
def peek (fs : FileSystem) (path : String) : Except SaveError Metadata :=
  match fs.read path with
  | .error e => .error (.file e)
  | .ok document =>
    match readMetadata document with
    | .ok metadata => .ok metadata
    | .error e => .error (.document e)

/-- The file system without a save. -/
def delete (fs : FileSystem) (path : String) : Except SaveError FileSystem :=
  match fs.remove path with
  | .ok fs => .ok fs
  | .error e => .error (.file e)

/-! ## Listing -/

/-- A save in a directory. -/
structure SaveInfo where
  path : String
  metadata : Metadata
deriving DecidableEq, Repr

/-- Whether the extension of a file name is `json`.  What follows a dot at the start of a name is no
extension. -/
def hasSaveExtension (name : String) : Bool :=
  let extension := ['.', 'j', 's', 'o', 'n']
  extension.isSuffixOf name.toList && name.toList != extension

/-- The save of a file in a directory, if it is one. -/
def saveInfo? (fs : FileSystem) (dir name : String) : Option SaveInfo :=
  if hasSaveExtension name then
    match peek fs (childPath dir name) with
    | .ok metadata => some ⟨childPath dir name, metadata⟩
    | .error _ => none
  else none

/-- Whether a save stands before another in a listing. -/
def SaveInfo.precedes (a b : SaveInfo) : Bool :=
  a.metadata.name ≤ b.metadata.name

/-- The saves in a directory by name of the character, and the file system after listing them. -/
def list (fs : FileSystem) (dir : String) : Except SaveError (List SaveInfo) × FileSystem :=
  match fs.exists? dir with
  | .error e => (.error (.file e), fs)
  | .ok false =>
    let (result, fs) := fs.createDirs dir
    ((result.map fun _ => []).mapError .file, fs)
  | .ok true =>
    match fs.enter (route dir) with
    | .error e => (.error (.file e), fs)
    | .ok location =>
      let saves := (fs.childNames location).filterMap (saveInfo? fs dir)
      (.ok (saves.mergeSort SaveInfo.precedes), fs)

end Tabletop.Save
