import DatasetSchema.CommandLine.Arguments
import DatasetSchema.Compilation.Basic
import DatasetSchema.FileTree.Temporary
import DatasetSchema.Settings.OfValue

/-!
# A run of the command

A run selects its settings, reads the schema file, compiles it and writes the module. The settings
file is the one that is asked for; otherwise the first of two that exists, one below the working
directory and one of the user. A file that the system does not tell about does not exist for the
run; one that exists but cannot be used is never passed over.

Only the last step changes files. If it fails, it leaves all files as they were.
-/

namespace DatasetSchema.CommandLine

/-- What a run can see of the computer. -/
structure Workspace where
  /-- The files, and what the system refuses to do with them. -/
  files : FileTree
  /-- Where paths start that do not start at the root. -/
  workingDirectory : Location
  /-- The settings file of the user, if it is known where it would be. -/
  userSettings : Option String
  /-- How temporary files are made. -/
  temporaryFiles : TemporaryFiles := .standard

namespace Workspace

/-- The settings file below the working directory. -/
def nearbySettings : String :=
  "dsdl/config.toml"

/-- Whether a path leads to anything that the system tells about. -/
def pathExists (w : Workspace) (path : String) : Bool :=
  w.files.pathExists w.workingDirectory (.ofText path)

/-- The text of a file. -/
def readText (w : Workspace) (path : String) : Except Failure String :=
  (w.files.readText w.workingDirectory (.ofText path)).mapError .access

/-- The settings of a file. -/
def readSettings (w : Workspace) (path : String) : Except Failure Settings :=
  if w.pathExists path then do
    let text ← w.readText path
    (Settings.ofText text).mapError fun fault => .settings fault.text
  else .error (.settings (Settings.Fault.missing path).text)

/-- The settings of a run that asks for the given file, if it asks for one. -/
def selectSettings (w : Workspace) (asked : Option String) : Attempt Failure Settings :=
  match asked with
  | some path => do
    .note (.settingsFound .explicit path)
    .ofExcept (w.readSettings path)
  | none =>
    if w.pathExists nearbySettings then do
      .note (.settingsFound .nearby nearbySettings)
      .ofExcept (w.readSettings nearbySettings)
    else
      match w.userSettings with
      | some path =>
        if w.pathExists path then do
          .note (.settingsFound .system path)
          .ofExcept (w.readSettings path)
        else do
          .note (.settingsMissing path)
          .note .defaultSettings
          return {}
      | none => do
        .note .settingsDirectoryUnknown
        .note .defaultSettings
        return {}

/-- The module for a schema file. -/
def compileFile [Document.SyntaxReporter] (w : Workspace) (settings : Settings) (input : String) :
    Attempt Failure String := do
  .note (.readingFile input)
  let source ← .ofExcept (w.readText input)
  settings.compile source

/-- Writes a module to a file. -/
def writeModule (w : Workspace) (output code : String) : Attempt Failure Unit × Workspace :=
  let (result, files) :=
    w.temporaryFiles.replace w.files w.workingDirectory (.ofText output) code.toUTF8
  let written := { w with files }
  match result with
  | .ok () => (.note (.codeWritten output), written)
  | .error problem => (.fail (.access problem), written)

/-- Goes on with writing a module if there is one. -/
def finish (w : Workspace) (output : String) (code : Attempt Failure String) :
    Attempt Failure Unit × Workspace :=
  match code.outcome with
  | .error failure => (⟨code.notes, .error failure⟩, w)
  | .ok text =>
    let (writing, w) := w.writeModule output text
    (code.bind fun _ => writing, w)

/-- Compiles a schema file with default settings and writes the module. -/
def compile [Document.SyntaxReporter] (w : Workspace) (input output : String) :
    Attempt Failure Unit × Workspace :=
  w.finish output (w.compileFile {} input)

/-- The module that the arguments ask for. -/
def moduleFor [Document.SyntaxReporter] (w : Workspace) (args : Arguments) :
    Attempt Failure String := do
  .note (.compilingSchema args.input args.outputPath)
  let settings ← w.selectSettings args.settings
  w.compileFile settings args.input

/-- Does what the arguments ask for. -/
def run [Document.SyntaxReporter] (w : Workspace) (args : Arguments) :
    Attempt Failure Unit × Workspace :=
  let (result, w) := w.finish args.outputPath (w.moduleFor args)
  (result.bind fun _ => .note (.declarationsGenerated args.outputPath), w)

end Workspace

end DatasetSchema.CommandLine
