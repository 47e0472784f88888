import Tabletop.Play.Session
import Tabletop.Save.Directory

/-!
# Saving and resuming sessions

A session saves its character in the directory of its settings, under the name of the character; a
saved character can be taken up again under any settings.
-/

namespace Tabletop.Play

open Tabletop.Save
open Tabletop.Time (Instant)

namespace Session

/-- The path a session saves its character under. -/
def savePath (s : Session) : String :=
  Save.savePath s.config.saveDir s.character.name

/-- Saves the character: its path, and the file system after it. -/
def save (s : Session) (now : Instant) (fs : FileSystem) : Except SaveError String × FileSystem :=
  let (result, fs) := store fs s.savePath (SavedCharacter.ofCharacter s.character now)
  (result.map fun _ => s.savePath, fs)

/-- A session of the character saved at a path. -/
def load (fs : FileSystem) (path : String) (config : SessionConfig) : Except SaveError Session :=
  match Save.load fs path with
  | .ok saved => .ok (Session.new saved.character config)
  | .error e => .error e

/-- The message of an error in saving or resuming. -/
def saveMessage (e : SaveError) : String :=
  "Persistence error: " ++ e.message

end Session

end Tabletop.Play
