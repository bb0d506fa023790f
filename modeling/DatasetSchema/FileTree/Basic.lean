import DatasetSchema.FileTree.Path
import DatasetSchema.FileTree.Problem

/-!
# File trees

A file tree holds files and directories by their locations. A location is the list of names that
lead there from the root; the root is always a directory. A path is resolved to a location step by
step: every name but the last has to be a directory.

The system has a say in what becomes of files. It may refuse a step for whatever reason: then it
does not tell what is at a location, or a file cannot be read, or a new file cannot be made, filled
or moved. What it refuses belongs to the tree.
-/

namespace DatasetSchema

/-- The names that lead to a place from the root. -/
abbrev Location := List String

/-- What can be at a location. -/
inductive FileEntry where
  | file (content : ByteArray)
  | directory

/-- Files are equal if their contents are, and a file is no directory. -/
instance : DecidableEq FileEntry
  | .file a, .file b =>
    match ByteArray.instDecidableEq a b with
    | isTrue h => isTrue (congrArg FileEntry.file h)
    | isFalse h => isFalse fun same => h (FileEntry.file.inj same)
  | .directory, .directory => isTrue rfl
  | .file _, .directory => isFalse nofun
  | .directory, .file _ => isFalse nofun

/-- What the system is asked to do with files. -/
inductive FileStep where
  /-- A name is looked up in a directory. -/
  | lookUp
  /-- The content of a file is read. -/
  | read
  /-- A new file is made in a directory. -/
  | create
  /-- A new file in a directory is filled. -/
  | write
  /-- A file is moved to a location. -/
  | move
  deriving DecidableEq, Repr

/-- Files and directories by their locations. -/
structure FileTree where
  /-- What is at the locations below the root; of several entries for a location the first
  counts. -/
  entries : List (Location × FileEntry)
  /-- The steps that the system refuses at a location, and what it says. -/
  refusals : List ((FileStep × Location) × FileProblem) := []
  deriving DecidableEq

namespace FileTree

/-- The tree that has only the root. -/
def empty : FileTree where
  entries := []

/-- What is at a location. -/
def get? (tree : FileTree) (location : Location) : Option FileEntry :=
  if location = [] then some .directory else tree.entries.lookup location

/-- The tree without what is at a location. -/
def erase (tree : FileTree) (location : Location) : FileTree :=
  { tree with entries := tree.entries.filter fun entry => entry.1 != location }

/-- The tree with something put at a location. -/
def set (tree : FileTree) (location : Location) (entry : FileEntry) : FileTree :=
  { tree with entries := (location, entry) :: (tree.erase location).entries }

/-- Whether the system takes a step at a location. -/
def permit (tree : FileTree) (step : FileStep) (location : Location) : Except FileProblem Unit :=
  match tree.refusals.lookup (step, location) with
  | some problem => .error problem
  | none => .ok ()

/-- Whether there is a directory at a location. -/
def checkDirectory (tree : FileTree) (location : Location) : Except FileProblem Unit :=
  match tree.get? location with
  | some .directory => .ok ()
  | some (.file _) => .error .notDirectory
  | none => .error .notFound

/-- The directory that some parts lead to from another one. Every name on the way is looked up. -/
def walk (tree : FileTree) : Location → List String → Except FileProblem Location
  | location, [] => .ok location
  | location, part :: parts =>
    if part == "." then walk tree location parts
    else do
      tree.permit .lookUp (location ++ [part])
      if part == ".." then walk tree location.dropLast parts
      else do
        tree.checkDirectory (location ++ [part])
        walk tree (location ++ [part]) parts

/-- The location that a path starts at. -/
def origin (workingDirectory : Location) (path : Path) : Location :=
  if path.isAbsolute then [] else workingDirectory

/-- The location that a path leads to. Nothing need be there, but what the path goes through has to
be. -/
def resolve (tree : FileTree) (workingDirectory : Location) (path : Path) :
    Except FileProblem Location :=
  let start := origin workingDirectory path
  match path.parts.getLast? with
  | none => if path.isAbsolute then .ok start else .error .notFound
  | some last => do
    let directory ← tree.walk start path.parts.dropLast
    if last == "." || last == ".." then tree.walk directory [last]
    else return directory ++ [last]

/-- What a path leads to. A slash at its end asks for a directory. -/
def entryAt (tree : FileTree) (workingDirectory : Location) (path : Path) :
    Except FileProblem FileEntry := do
  let location ← tree.resolve workingDirectory path
  match tree.get? location with
  | none => .error .notFound
  | some (.file content) => if path.endsWithSlash then .error .notDirectory else .ok (.file content)
  | some .directory => .ok .directory

/-- What a path leads to, if the system tells. -/
def lookUp (tree : FileTree) (workingDirectory : Location) (path : Path) :
    Except FileProblem FileEntry := do
  let location ← tree.resolve workingDirectory path
  tree.permit .lookUp location
  tree.entryAt workingDirectory path

/-- Whether a path leads to anything, as far as the system tells: what cannot be
looked up does not exist. -/
def pathExists (tree : FileTree) (workingDirectory : Location) (path : Path) : Bool :=
  (tree.lookUp workingDirectory path).isOk

/-- The text of the file that a path leads to. -/
def readText (tree : FileTree) (workingDirectory : Location) (path : Path) :
    Except FileProblem String := do
  match ← tree.lookUp workingDirectory path with
  | .directory => .error .isDirectory
  | .file content =>
    tree.permit .read (← tree.resolve workingDirectory path)
    match String.fromUTF8? content with
    | some text => .ok text
    | none => .error .invalidText

/-- The location of the directory that the last name of a path stands in, or else the working
directory. -/
def parentOf (tree : FileTree) (workingDirectory : Location) (path : Path) :
    Except FileProblem Location :=
  match path.names with
  | [] => .ok workingDirectory
  | name :: names => tree.walk (origin workingDirectory path) (name :: names).dropLast

/-- The location that one part of a path leads to, whatever is there. -/
def stepTo (location : Location) (part : String) : Location :=
  if part == "." then location else if part == ".." then location.dropLast else location ++ [part]

/-- Makes the directories that some parts lead through, as far as they are not there. -/
def makeDirectories (tree : FileTree) : (start : Location) → List String → FileTree
  | _, [] => tree
  | start, part :: parts =>
    let location := stepTo start part
    let tree := if (tree.get? location).isSome then tree else tree.set location .directory
    tree.makeDirectories location parts

/-- Puts a file where some parts lead to, and makes the directories on the way. -/
def put (tree : FileTree) (start : Location) (parts : List String) (content : ByteArray) :
    FileTree :=
  (tree.makeDirectories start parts.dropLast).set (parts.foldl stepTo start) (.file content)

/-- How a location is listed: its names between slashes, and a slash behind a directory. -/
def listed (location : Location) : FileEntry → String
  | .file _ => "/".intercalate location
  | .directory => "/".intercalate location ++ "/"

/-- All that is below a directory, with locations that start there, in the order of their texts. -/
def list (tree : FileTree) (directory : Location) : List String :=
  let below := tree.entries.filter fun entry =>
    directory.isPrefixOf entry.1 && directory.length < entry.1.length
  let texts := below.map fun entry => listed (entry.1.drop directory.length) entry.2
  texts.mergeSort fun a b => decide (a ≤ b)

end FileTree

end DatasetSchema
