/-!
# File systems

A file system is a finite map from locations to files and directories.  A location is the list of
names from the root; the root is always a directory, and it is the current one, so that a path means
the same with and without a slash in front.  A written path is walked name by name from the root: an
empty name or a single dot stays where it is, two dots go back, and any other name has to be there.
Each of them needs a directory to start from, so a path through a file leads nowhere.

The empty path is no path to anything: nothing is found there, read there or written there.  It is
still a directory that files can be in, the current one, so it can be entered, and asking for it to
be made succeeds.

Reading and writing give either the reason of their failure or their result.  `makeDirs` makes as
many of the directories of a path as can be made and does not fail; whether all of them are there is
a question for `enter`.
-/

namespace Tabletop.Save

/-- The names from the root to a file or directory. -/
abbrev Location := List String

/-- What stands at a location. -/
inductive Node
  | file (content : String)
  | directory
deriving DecidableEq, Repr

/-- Why an operation on files failed. -/
inductive FileError
  /-- There is nothing at the path. -/
  | notFound
  /-- Something on the way is a file. -/
  | notADirectory
  /-- A directory stands where a file was expected. -/
  | isADirectory
  /-- No file can have this name. -/
  | badName
  /-- The path, or a name in it, is too long. -/
  | nameTooLong
deriving DecidableEq, Repr

/-- The message of an error. -/
def FileError.message : FileError → String
  | .notFound => "no such file or directory"
  | .notADirectory => "not a directory"
  | .isADirectory => "is a directory"
  | .badName => "invalid file name"
  | .nameTooLong => "file name too long"

/-! ## Written paths -/

/-- A written path as the names between its slashes.  A slash at either end, or two in a row, leave
an empty name. -/
abbrev Route := List String

/-- The pieces of a text between slashes. -/
def splitPath : List Char → List (List Char)
  | [] => [[]]
  | c :: cs =>
    if c = '/' then [] :: splitPath cs
    else
      match splitPath cs with
      | [] => [[c]]
      | piece :: pieces => (c :: piece) :: pieces

/-- The names between the slashes of a written path. -/
def route (path : String) : Route :=
  (splitPath path.toList).map String.ofList

/-- Whether a name stays where it is. -/
def isIdle (name : String) : Bool :=
  name == "" || name == "."

/-- Whether a name is the name of an entry, and no step that stays or goes back. -/
def isEntryName (name : String) : Bool :=
  !isIdle name && name != ".."

/-- The most bytes a name may have. -/
def maxNameSize : Nat := 255

/-- The most bytes a written path may have. -/
def maxPathSize : Nat := 4095

/-- The number of bytes of a written path. -/
def Route.size (names : Route) : Nat :=
  names.foldl (fun size name => size + name.utf8ByteSize) (names.length - 1)

/-- The path without the names at its end that stay where they are. -/
def Route.trimmed (names : Route) : Route :=
  (names.reverse.dropWhile isIdle).reverse

/-- The path of the directory that the last name of a path stands in. -/
def Route.parent (names : Route) : Route :=
  Route.trimmed names.trimmed.dropLast

/-- The path of the directories that are made when a directory is asked for.  Slashes at the end
change nothing, but what is followed by a dot has to be there already. -/
def Route.wanted (names : Route) : Route :=
  let wanted : Route := (names.reverse.dropWhile (· == "")).reverse
  if wanted.getLast? == some "." then wanted.parent else wanted

/-- Refuses paths that no file can have: those with a null character and those that are too
long. -/
def Route.check (names : Route) : Except FileError Unit :=
  if names.any fun name => name.toList.contains '\x00' then .error .badName
  else if maxPathSize < names.size then .error .nameTooLong
  else .ok ()

/-- Refuses the empty path too, at which there is nothing. -/
def Route.checkFile (names : Route) : Except FileError Unit :=
  if names = [""] then .error .notFound else names.check

/-! ## Looking -/

/-- A finite map from locations to files and directories. -/
structure FileSystem where
  /-- What stands where, newest first; the root is not listed. -/
  entries : List (Location × Node)
deriving DecidableEq, Repr

namespace FileSystem

/-- The file system with nothing but the root. -/
def empty : FileSystem :=
  ⟨[]⟩

/-- What stands at a location. -/
def node? (fs : FileSystem) (location : Location) : Option Node :=
  if location.isEmpty then some .directory else fs.entries.lookup location

/-- The file system with something else at a location. -/
def put (fs : FileSystem) (location : Location) (node : Node) : FileSystem :=
  ⟨(location, node) :: fs.entries.filter fun entry => entry.1 != location⟩

/-- The file system with nothing at a location. -/
def erase (fs : FileSystem) (location : Location) : FileSystem :=
  ⟨fs.entries.filter fun entry => entry.1 != location⟩

/-- Succeeds where there is a directory. -/
def checkDirectory (fs : FileSystem) (location : Location) : Except FileError Unit :=
  match fs.node? location with
  | some .directory => .ok ()
  | some (.file _) => .error .notADirectory
  | none => .error .notFound

/-- The location a name leads to from a directory. -/
def step (fs : FileSystem) (here : Location) (name : String) : Except FileError Location :=
  if isIdle name then .ok here
  else if name = ".." then .ok here.dropLast
  else if maxNameSize < name.utf8ByteSize then .error .nameTooLong
  else if (fs.node? (here ++ [name])).isSome then .ok (here ++ [name])
  else .error .notFound

/-- The location that names lead to from a location. -/
def walk (fs : FileSystem) (here : Location) : Route → Except FileError Location
  | [] => .ok here
  | name :: names => do
    fs.checkDirectory here
    fs.walk (← fs.step here name) names

/-- The location a written path leads to. -/
def locate (fs : FileSystem) (names : Route) : Except FileError Location := do
  names.checkFile
  fs.walk [] names

/-- The location of the directory that files with a written path in front of their names are in.
For the empty path that is the current directory. -/
def enter (fs : FileSystem) (names : Route) : Except FileError Location := do
  names.check
  let location ← fs.walk [] names
  fs.checkDirectory location
  return location

/-- The location where the last name of a written path stands, or would stand. -/
def place (fs : FileSystem) (names : Route) : Except FileError Location := do
  names.checkFile
  let here ← fs.walk [] names.dropLast
  fs.checkDirectory here
  let name := names.getLast?.getD ""
  if !isEntryName name then throw .isADirectory
  if maxNameSize < name.utf8ByteSize then throw .nameTooLong
  return here ++ [name]

/-- Whether there is something at a written path; fails when that cannot be found out. -/
def exists? (fs : FileSystem) (path : String) : Except FileError Bool :=
  match fs.locate (route path) with
  | .ok _ => .ok true
  | .error .notFound => .ok false
  | .error e => .error e

/-- The content of a file. -/
def read (fs : FileSystem) (path : String) : Except FileError String := do
  let location ← fs.locate (route path)
  match fs.node? location with
  | some (.file content) => return content
  | some .directory => throw .isADirectory
  | none => throw .notFound

/-- The names of what stands directly in a directory. -/
def childNames (fs : FileSystem) (location : Location) : List String :=
  fs.entries.filterMap fun entry =>
    match entry.1.getLast? with
    | some name => if entry.1.dropLast = location then some name else none
    | none => none

/-! ## Changing -/

/-- The file system with directories made for the names that are missing from a location on, up to
the first that cannot be passed. -/
def makeDirsFrom (fs : FileSystem) (here : Location) : Route → FileSystem
  | [] => fs
  | name :: names =>
    match fs.checkDirectory here with
    | .error _ => fs
    | .ok _ =>
      match fs.step here name with
      | .ok next => makeDirsFrom fs next names
      | .error .notFound =>
        makeDirsFrom (fs.put (here ++ [name]) .directory) (here ++ [name]) names
      | .error _ => fs

/-- The file system with as many directories of a path as can be made. -/
def makeDirs (fs : FileSystem) (names : Route) : FileSystem :=
  match names.check with
  | .ok _ => fs.makeDirsFrom [] names.wanted
  | .error _ => fs

/-- Makes a directory and the directories on the way to it. -/
def createDirs (fs : FileSystem) (path : String) : Except FileError Unit × FileSystem :=
  let fs := fs.makeDirs (route path)
  (discard (fs.enter (route path)), fs)

/-- The file system with a file written, in a directory that has to be there. -/
def write (fs : FileSystem) (path content : String) : Except FileError FileSystem := do
  let location ← fs.place (route path)
  match fs.node? location with
  | some .directory => throw .isADirectory
  | _ => return fs.put location (.file content)

/-- Writes a file, after making the directory it stands in. -/
def writeWithDirs (fs : FileSystem) (path content : String) :
    Except FileError Unit × FileSystem :=
  let fs := fs.makeDirs (route path).parent
  match fs.write path content with
  | .ok fs => (.ok (), fs)
  | .error e => (.error e, fs)

/-- The file system without a file. -/
def remove (fs : FileSystem) (path : String) : Except FileError FileSystem := do
  let location ← fs.place (route path)
  match fs.node? location with
  | some (.file _) => return fs.erase location
  | some .directory => throw .isADirectory
  | none => throw .notFound

end FileSystem

end Tabletop.Save
