import DatasetSchema.FileTree.Basic

/-!
# Temporary files

A file is replaced by way of a temporary one: a new file in the same directory is filled
and then moved to the path. So the path changes in one step, and there is no moment at
which its file is half written.

Temporary files are what a library makes of them, so its operations are a parameter. They are given
for a library that chooses a name that nothing has, and does each step unless the system refuses it.
-/

namespace DatasetSchema

/-- The operations on temporary files. Each one answers with the tree afterwards. -/
structure TemporaryFiles where
  /-- Makes a temporary file in a directory, and tells where it is. -/
  newIn : FileTree → (directory : Location) → Except FileProblem Location × FileTree
  /-- Writes the whole content of a temporary file. -/
  writeAll : FileTree → (file : Location) → ByteArray → Except FileProblem Unit × FileTree
  /-- Moves a temporary file to a path, in place of a file that is there. -/
  persist : FileTree → (workingDirectory file : Location) → Path →
    Except FileProblem Unit × FileTree
  /-- Gives up a temporary file. -/
  drop : FileTree → (file : Location) → FileTree

namespace FileTree

/-- A step with its outcome and the tree afterwards; a step that is not taken leaves the tree as it
is. -/
def attempt {α : Type} (tree : FileTree) : Except FileProblem (α × FileTree) →
    Except FileProblem α × FileTree
  | .ok (a, after) => (.ok a, after)
  | .error problem => (.error problem, tree)

/-- The number of characters in all names of the tree. -/
def nameLength (tree : FileTree) : Nat :=
  (tree.entries.flatMap fun entry => entry.1.flatMap String.toList).length

/-- A name that no file and no directory has, since it is longer than all of them. -/
def freshName (tree : FileTree) : String :=
  String.ofList (".tmp".toList ++ List.replicate (tree.nameLength + 1) '0')

/-- Makes an empty file in a directory, under a name that nothing has. -/
def create (tree : FileTree) (directory : Location) : Except FileProblem (Location × FileTree) := do
  tree.permit .create directory
  let file := directory ++ [tree.freshName]
  return (file, tree.set file (.file .empty))

/-- Fills a file. -/
def write (tree : FileTree) (file : Location) (content : ByteArray) :
    Except FileProblem (Unit × FileTree) := do
  tree.permit .write file.dropLast
  return ((), tree.set file (.file content))

/-- Moves the file at a location to a path, in place of a file that is there. -/
def moveTo (tree : FileTree) (workingDirectory source : Location) (path : Path) :
    Except FileProblem (Unit × FileTree) := do
  match path.parts.getLast? with
  | none => .error (if path.isAbsolute then .busy else .notFound)
  | some last =>
    let directory ← tree.walk (origin workingDirectory path) path.parts.dropLast
    if last == "." || last == ".." then .error .busy
    else if path.endsWithSlash then .error .notDirectory
    else
      match tree.get? (directory ++ [last]), tree.get? source with
      | some .directory, _ => .error .isDirectory
      | _, none => .error .notFound
      | _, some entry =>
        tree.permit .move (directory ++ [last])
        return ((), (tree.erase source).set (directory ++ [last]) entry)

end FileTree

namespace TemporaryFiles

/-- Temporary files with names that nothing has; each step is taken unless the system refuses it. -/
def standard : TemporaryFiles where
  newIn tree directory := tree.attempt (tree.create directory)
  writeAll tree file content := tree.attempt (tree.write file content)
  persist tree workingDirectory file path := tree.attempt (tree.moveTo workingDirectory file path)
  drop := FileTree.erase

/-- Fills a temporary file and moves it to a path. -/
def fill (temporaryFiles : TemporaryFiles) (tree : FileTree) (file workingDirectory : Location)
    (path : Path) (content : ByteArray) : Except FileProblem Unit × FileTree :=
  match temporaryFiles.writeAll tree file content with
  | (.error problem, tree) => (.error problem, tree)
  | (.ok (), tree) => temporaryFiles.persist tree workingDirectory file path

/-- What has been done with a temporary file, at the end of its lifetime: it is dropped unless it
has been moved to its place. -/
def leave (temporaryFiles : TemporaryFiles) (file : Location) :
    Except FileProblem Unit × FileTree → Except FileProblem Unit × FileTree
  | (.ok (), tree) => (.ok (), tree)
  | (.error problem, tree) => (.error problem, temporaryFiles.drop tree file)

/-- Writes a file by way of a temporary one in the same directory. -/
def replace (temporaryFiles : TemporaryFiles) (tree : FileTree) (workingDirectory : Location)
    (path : Path) (content : ByteArray) : Except FileProblem Unit × FileTree :=
  match tree.parentOf workingDirectory path with
  | .error problem => (.error problem, tree)
  | .ok directory =>
    match temporaryFiles.newIn tree directory with
    | (.error problem, tree) => (.error problem, tree)
    | (.ok file, tree) =>
      temporaryFiles.leave file (temporaryFiles.fill tree file workingDirectory path content)

end TemporaryFiles

end DatasetSchema
