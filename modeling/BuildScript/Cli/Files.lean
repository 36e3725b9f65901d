import BuildScript.Text.Path

/-! # Files

What the program asks of a file system: the text at a path, and writing a text where the
directories above it may have to be made. Beside the real one there is one in memory.
-/

namespace BuildScript.Cli

/-- What stands at a path. -/
inductive Entry
  | absent
  | directory
  /-- Nothing can: a name on the path is too long. -/
  | longName
  | file (text : String)

/-- Why a text could not be written. -/
inductive WriteFault
  | isDirectory
  | notDirectory
  | parentIsFile
  | longName
deriving DecidableEq

structure FileSystem (m : Type → Type) where
  read : String → m Entry
  write : String → String → m (Option WriteFault)

namespace Path

/-- The name of the directory in which absolute paths begin. -/
def root : String := "/"

/-- The names on a path, those of an absolute one from the root on. -/
def names (path : String) : List String :=
  if path.toList.head? == some '/' then root :: Text.pathNames path else Text.pathNames path

/-- The shortest way to write names as a path. -/
def ofNames : List String → String
  | [] => "."
  | first :: rest =>
    if first = root then root ++ "/".intercalate rest else "/".intercalate (first :: rest)

/-- The shortest way to write a path. Names that lead outward stay in it. -/
def normal (path : String) : String := ofNames (names path)

/-- The path of a name in a directory. -/
def join (directory name : String) : String := ofNames (names directory ++ Text.pathNames name)

end Path

/-- Files in memory and directories that were made, each at its place: the names that lead to it
straight from the directory in which the program runs. -/
structure MemoryFiles where
  files : List (List String × String) := []
  directories : List (List String) := []

namespace MemoryFiles

def ofList (files : List (String × String)) : MemoryFiles :=
  { files := files.map fun f => (Path.names f.1, f.2) }

def isFile (fs : MemoryFiles) (place : List String) : Bool := (fs.files.lookup place).isSome

/-- Whether a place is a directory: outside there are those around the program and the root. -/
def isDirectory (fs : MemoryFiles) (place : List String) : Bool :=
  (place.all fun n => n == Text.outward) || place == [Path.root] ||
    fs.directories.contains place ||
    fs.files.any fun f => place.length < f.1.length && f.1.take place.length == place

/-- The place in which the directory at a place lies. -/
def outOf (place : List String) : List String :=
  if place.all fun n => n == Text.outward then place ++ [Text.outward]
  else if place == [Path.root] then place
  else place.dropLast

/-- The most bytes of a name. -/
def nameLimit : Nat := 255

/-- The most bytes of a path. -/
def pathLimit : Nat := 4095

/-- Where names lead. -/
inductive Route
  | to (place : List String)
  /-- A directory on the way is not there. -/
  | missing
  /-- A file is in the way. -/
  | blocked
  | longName

/-- Follows names from a place on. All but the last have to be those of directories. -/
def follow (fs : MemoryFiles) (here : List String) : List String → Route
  | [] => .to here
  | name :: rest =>
    if fs.isDirectory here then
      if nameLimit < name.utf8ByteSize then .longName
      else follow fs (if name = Text.outward then outOf here else here ++ [name]) rest
    else if fs.isFile here then .blocked
    else .missing

/-- Where a path leads from the directory in which the program runs. -/
def route (fs : MemoryFiles) (names : List String) : Route :=
  if pathLimit < (Path.ofNames names).utf8ByteSize then .longName else fs.follow [] names

def read (fs : MemoryFiles) (path : String) : Entry :=
  match fs.route (Path.names path) with
  | .to place =>
    match fs.files.lookup place with
    | some text => .file text
    | none => if fs.isDirectory place then .directory else .absent
  | .missing | .blocked => .absent
  | .longName => .longName

/-- Makes a directory unless it is there; nothing is done if the one around it is missing. -/
def make? (fs : MemoryFiles) (names : List String) : Option (Option WriteFault × MemoryFiles) :=
  match fs.route names with
  | .to place =>
    if fs.isFile place then some (some .parentIsFile, fs)
    else if fs.isDirectory place then some (none, fs)
    else some (none, { fs with directories := place :: fs.directories })
  | .missing => none
  | .blocked => some (some .notDirectory, fs)
  | .longName => some (some .longName, fs)

/-- Makes a directory and those around it that are missing. The names are given last first. -/
def makeAll (fs : MemoryFiles) : List String → Option WriteFault × MemoryFiles
  | [] => (none, fs)
  | name :: outer =>
    let names := (name :: outer).reverse
    match fs.make? names with
    | some result => result
    | none =>
      match makeAll fs outer with
      | (none, fs) => (fs.make? names).getD (none, fs)
      | failed => failed

def write (fs : MemoryFiles) (path text : String) : Option WriteFault × MemoryFiles :=
  let names := Path.names path
  match fs.makeAll names.dropLast.reverse with
  | (none, fs) =>
    match fs.route names with
    | .to place =>
      if fs.isDirectory place then (some .isDirectory, fs)
      else (none, { fs with files := (place, text) :: fs.files })
    | .missing | .blocked => (some .notDirectory, fs)
    | .longName => (some .longName, fs)
  | failed => failed

def system : FileSystem (StateM MemoryFiles) where
  read path := fun fs => (fs.read path, fs)
  write path text := fun fs => fs.write path text

end MemoryFiles

end BuildScript.Cli
