import DatasetSchema.CommandLine.Run

/-!
# An execution of the program

The program reads its arguments, runs, and reports what went wrong. It shows the notes of the level
that is asked for and of all graver ones; instead of an unknown level it takes warnings. Its exit
code tells whether it succeeded: `0`, or `1` for a failure, or `2` for words that are no arguments.
-/

namespace DatasetSchema.CommandLine

/-- Which notes are shown: those of a level and of all graver ones, or none. -/
def levelOfName? (name : String) : Option (Option Level) :=
  let lower := String.ofList (name.toList.map Char.toLower)
  if lower == "off" then some none
  else if lower == "error" then some (some .error)
  else if lower == "warn" then some (some .warn)
  else if lower == "info" then some (some .info)
  else if lower == "debug" then some (some .debug)
  else if lower == "trace" then some (some .trace)
  else none

/-- Whether a note is shown. -/
def isShown (filter : Option Level) (note : Note) : Bool :=
  match filter with
  | some level => note.level.rank ≤ level.rank
  | none => false

/-- What an execution comes to. -/
structure Execution where
  /-- What the command tells the system: zero if it was successful. -/
  exitCode : Nat
  /-- The notes that are shown. -/
  notes : List Note
  /-- A remark on the name of a level that is unknown. -/
  remark : Option String
  /-- What is refused or asked for instead of a run. -/
  refusal : Option Refusal
  /-- The computer afterwards. -/
  workspace : Workspace

/-- The remark on the name of a level that is unknown. -/
def unknownLevel (name : String) : String :=
  "Invalid log level: " ++ name ++ ". Using 'warn' instead."

/-- All notes of an execution with arguments, and whether it succeeds. -/
def Workspace.executeArguments [Document.SyntaxReporter] (w : Workspace) (args : Arguments) :
    List Note × Bool × Workspace :=
  let (result, w) := w.run args
  let started := [Note.starting, .argumentsParsed] ++ result.notes
  match result.outcome with
  | .ok () => (started ++ [.completed], true, w)
  | .error failure => (started ++ failure.reports.map fun r => .reported r.text, false, w)

/-- Executes the program with the given words after its name. -/
def Workspace.execute [Document.SyntaxReporter] (w : Workspace) (words : List String) : Execution :=
  match Arguments.ofWords words with
  | .error refusal =>
    let exitCode := if refusal = .help ∨ refusal = .version then 0 else 2
    { exitCode, notes := [], remark := none, refusal := some refusal, workspace := w }
  | .ok args =>
    let level := levelOfName? args.level
    let (notes, succeeded, w) := w.executeArguments args
    { exitCode := if succeeded then 0 else 1
      notes := notes.filter (isShown (level.getD (some .warn)))
      remark := if level.isSome then none else some (unknownLevel args.level)
      refusal := none
      workspace := w }

end DatasetSchema.CommandLine
