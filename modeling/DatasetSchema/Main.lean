import DatasetSchema.CommandLine.Execution
import DatasetSchema.CommandLine.Help

/-!
# The program

The program looks at the files that its arguments speak of, lets `Workspace.execute` tell what
happens, writes the file that has changed, and prints the notes. What the computer refuses when it
is looked at, the system refuses in the workspace; and if the changed file cannot be written, the
program tells what happens when the system refuses that.
-/

namespace DatasetSchema.CommandLine

/-- The locations that the parts of a path lead through. -/
def locationsThrough (start : Location) : List String → List Location
  | [] => [start]
  | part :: parts => start :: locationsThrough (FileTree.stepTo start part) parts

/-- The locations that a path leads through. -/
def locationsOf (workingDirectory : Location) (path : String) : List Location :=
  let path := Path.ofText path
  locationsThrough (FileTree.origin workingDirectory path) path.parts

/-- The paths that an execution with the given words speaks of. -/
def pathsOf (userSettings : Option String) (words : List String) : List String :=
  match Arguments.ofWords words with
  | .ok args =>
    [args.input, args.outputPath, Workspace.nearbySettings] ++ userSettings.toList ++
      args.settings.toList
  | .error _ => []

/-- The path of a location. -/
def pathOf (location : Location) : String :=
  "/" ++ "/".intercalate location

/-- Whether the computer tells that a path leads to something. -/
def isKnown (path : String) : IO Bool := do
  try
    let _ ← IO.FS.realPath path
    return true
  catch _ => return false

/-- What an error of the computer says of a file that is looked at or written. -/
def problemOf : IO.Error → FileProblem
  | .noFileOrDirectory .. => .notFound
  | .inappropriateType _ _ details =>
    if details == "is a directory" then .isDirectory else .notDirectory
  | .resourceBusy .. => .busy
  | error => .other (toString error)

/-- The tree in which the system refuses one more step. -/
def refuse (files : FileTree) (step : FileStep) (location : Location) (problem : FileProblem) :
    FileTree :=
  { files with refusals := ((step, location), problem) :: files.refusals }

/-- The tree with what is at a location of the computer. -/
def lookAt (files : FileTree) (location : Location) : IO FileTree := do
  let path := pathOf location
  try
    let content ← IO.FS.readBinFile path
    return files.set location (.file content)
  catch error =>
    let problem := problemOf error
    if problem == .isDirectory || (← isKnown (path ++ "/.")) then
      return files.set location .directory
    else if problem == .notFound || problem == .notDirectory then
      return files
    else
      -- There may be a file whose content is not known, or it is not even known
      -- whether there is one.
      let step := if ← isKnown path then .read else .lookUp
      return refuse (files.set location (.file .empty)) step location problem

/-- The locations whose files an execution has changed, with their new contents. -/
def changedFiles (before after : FileTree) (locations : List Location) :
    List (Location × ByteArray) :=
  locations.eraseDups.filterMap fun location =>
    match after.get? location with
    | some (.file content) =>
      if before.get? location = some (.file content) then none else some (location, content)
    | _ => none

/-- Opens a new file in a directory, under the first of some names that nothing has. -/
def openNew (directory : Location) : (names : List String) → IO (String × IO.FS.Handle)
  | [] => throw (.userError "every name for a temporary file is taken")
  | name :: names => do
    let path := pathOf (directory ++ [name])
    try
      return (path, ← IO.FS.Handle.mk path .writeNew)
    catch
      | .alreadyExists .. => openNew directory names
      | error => throw error

/-- Puts a file in place, completely or not at all. -/
def writeFile (location : Location) (content : ByteArray) : IO Unit := do
  let names := (List.range 65536).map fun number => ".tmp" ++ toString number
  let (temporary, handle) ← openNew location.dropLast names
  try
    handle.write content
    handle.flush
    IO.FS.rename temporary (pathOf location)
  catch error =>
    IO.FS.removeFile temporary
    throw error

/-- A note as it is printed. -/
def lineOf (note : Note) : String :=
  let details := note.details.map fun detail => " " ++ detail.1 ++ "=" ++ detail.2
  "[" ++ note.level.text ++ " " ++ note.origin.text ++ "] " ++ note.message ++ String.join details

/-- The path of the user's settings file, if there is a directory for settings. -/
def userSettingsPath : IO (Option String) := do
  let configured := (← IO.getEnv "XDG_CONFIG_HOME").filter fun directory => directory.startsWith "/"
  let home := (← IO.getEnv "HOME").filter fun directory => !directory.isEmpty
  let directory := configured <|> home.map fun directory => directory ++ "/.config"
  return directory.map fun directory => directory ++ "/dsdl/config.toml"

/-- Executes the program in a workspace, and writes the file that it changes; it changes at most
one. -/
def executeAndWrite (w : Workspace) (words : List String) (locations : List Location) :
    IO Execution := do
  let execution := w.execute words
  match changedFiles w.files execution.workspace.files locations with
  | [] => return execution
  | (location, content) :: _ =>
    try
      writeFile location content
      return execution
    catch error =>
      let files := refuse w.files .create location.dropLast (problemOf error)
      return { w with files }.execute words

/-- Executes the program on the files of the computer. -/
def executeOnComputer (words : List String) : IO UInt32 := do
  let workingDirectory := (Path.ofText (toString (← IO.currentDir))).parts
  let userSettings ← userSettingsPath
  let locations := (pathsOf userSettings words).flatMap (locationsOf workingDirectory)
  let files ← (locations.eraseDups.filter (· != [])).foldlM lookAt FileTree.empty
  let execution ← executeAndWrite { files, workingDirectory, userSettings } words locations
  if let some remark := execution.remark then IO.eprintln remark
  if execution.refusal = some .help then IO.println helpText
  else if execution.refusal = some .version then IO.println versionText
  else if execution.refusal.isSome then IO.eprintln helpText
  for note in execution.notes do
    IO.eprintln (lineOf note)
  return UInt32.ofNat execution.exitCode

end DatasetSchema.CommandLine

/-- Executes the program with the given words. -/
def main (words : List String) : IO UInt32 :=
  DatasetSchema.CommandLine.executeOnComputer words
