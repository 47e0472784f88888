import Tabletop.Text.Alphanumeric

/-!
# Where a character is saved

A character is saved in a file named after it: letters and digits are kept, everything else becomes
an underscore, and `.json` is put at the end.  The file stands directly in the save directory.
-/

namespace Tabletop.Save

open Tabletop.Text

/-- A character of a name as it stands in a file name. -/
def fileChar (c : Char) : Char :=
  if isAlphanumeric c then c else '_'

/-- The name of the file of a character. -/
def fileName (name : String) : String :=
  String.ofList (name.toList.map fileChar ++ ['.', 'j', 's', 'o', 'n'])

/-- The path of a file in a directory.  The empty directory is the current one. -/
def childPath (dir file : String) : String :=
  if dir.isEmpty || dir.toList.getLast? == some '/' then dir ++ file else dir ++ "/" ++ file

/-- The path a character is saved under. -/
def savePath (dir name : String) : String :=
  childPath dir (fileName name)

end Tabletop.Save
