import DatasetSchema.FileTree.Path

/-!
# Arguments

The command takes the path of a schema file and three options, each at most once: `-o` or
`--output`, `-c` or `--config`, and `--log-level`. The value of an option is the next word, or is
attached to it: behind the letter of a short option, or behind an equals sign. All words after `--`
are paths. `-h`, `--help`, `-V` and `--version` ask for information instead.
-/

namespace DatasetSchema.CommandLine

/-- What the command is asked to do. -/
structure Arguments where
  /-- The schema file. -/
  input : String
  /-- The file for the module; without one, it is put next to the schema file. -/
  output : Option String
  /-- The settings file, if one is asked for. -/
  settings : Option String
  /-- The name of the level from which on notes are shown. -/
  level : String
  deriving DecidableEq, Repr

/-- Where the generated module is written. -/
def Arguments.outputPath (args : Arguments) : String :=
  args.output.getD (Path.withExtension args.input "py")

/-- Why the words of a command are no arguments. -/
inductive Refusal where
  | help
  | version
  | missingInput
  /-- A word is neither an option nor the first path. -/
  | unknownWord
  | repeatedOption
  | missingValue
  | unexpectedValue
  deriving DecidableEq, Repr

/-- The options. -/
inductive OptionName where
  | output
  | settings
  | level
  deriving DecidableEq, Repr

/-- An option whose value is not yet stored. -/
inductive Pending where
  /-- The next word is the value. -/
  | awaiting (option : OptionName)
  | given (option : OptionName) (value : String)
  deriving DecidableEq, Repr

/-- What the words so far say. -/
structure Partial where
  /-- The schema file, if it was among the words. -/
  input : Option String := none
  /-- The options with their values, in the order of the words. -/
  values : List (OptionName × String) := []
  /-- The last option, if its value is not yet stored. -/
  pending : Option Pending := none
  deriving DecidableEq, Repr

namespace Partial

/-- Stores the value of an option. -/
def store (p : Partial) (option : OptionName) (value : String) : Except Refusal Partial :=
  if (p.values.lookup option).isSome then .error .repeatedOption
  else .ok { p with values := (option, value) :: p.values }

/-- Stores the value of the pending option. -/
def settle (p : Partial) : Except Refusal Partial :=
  match p.pending with
  | none => .ok p
  | some (.awaiting _) => .error .missingValue
  | some (.given option value) => { p with pending := none }.store option value

/-- An option with its attached value, or without one. -/
def addOption (p : Partial) (option : OptionName) (value : Option String) :
    Except Refusal Partial := do
  let p ← p.settle
  match value with
  | some value => p.store option value
  | none => return { p with pending := some (.awaiting option) }

/-- The help or the version is asked for. -/
def ask (p : Partial) (refusal : Refusal) : Except Refusal Partial := do
  let _ ← p.settle
  .error refusal

/-- A word that is a path. There can be only one. -/
def addPath (p : Partial) (path : String) : Except Refusal Partial :=
  match p.input with
  -- A second path is told before an option that lacks its value.
  | some _ => .error .unknownWord
  | none => do
    let p ← p.settle
    return { p with input := some path }

/-- A word that begins with two dashes. -/
def addLong (p : Partial) (word : List Char) : Except Refusal Partial :=
  let name := String.ofList (word.takeWhile (· != '='))
  let value :=
    match word.dropWhile (· != '=') with
    | _ :: value => some (String.ofList value)
    | [] => none
  if name == "output" then p.addOption .output value
  else if name == "config" then p.addOption .settings value
  else if name == "log-level" then p.addOption .level value
  else if name == "help" || name == "version" then
    if value.isSome then .error .unexpectedValue
    else p.ask (if name == "help" then .help else .version)
  else .error .unknownWord

/-- The value behind the letter of a short option. -/
def attached : List Char → Option String
  | [] => none
  | '=' :: value => some (String.ofList value)
  | value => some (String.ofList value)

/-- A word that begins with one dash. -/
def addShort (p : Partial) : List Char → Except Refusal Partial
  | 'o' :: value => p.addOption .output (attached value)
  | 'c' :: value => p.addOption .settings (attached value)
  | 'h' :: _ => p.ask .help
  | 'V' :: _ => p.ask .version
  | _ => .error .unknownWord

/-- A word before any `--`. -/
def addWord (p : Partial) (word : String) : Except Refusal Partial :=
  match word.toList with
  | '-' :: '-' :: rest => p.addLong rest
  | '-' :: c :: rest => p.addShort (c :: rest)
  | _ =>
    match p.pending with
    | some (.awaiting option) => .ok { p with pending := some (.given option word) }
    | _ => p.addPath word

/-- Reads words; `onlyPaths` after a `--`. -/
def addWords (p : Partial) : (onlyPaths : Bool) → List String → Except Refusal Partial
  | _, [] => p.settle
  | true, word :: words => do
    let p ← p.addPath word
    p.addWords true words
  | false, word :: words =>
    if word == "--" then p.addWords true words
    else do
      let p ← p.addWord word
      p.addWords false words

end Partial

/-- The arguments that some words are. -/
def Arguments.ofWords (words : List String) : Except Refusal Arguments := do
  let p ← ({} : Partial).addWords false words
  match p.input with
  | none => .error .missingInput
  | some input =>
    return {
      input
      output := p.values.lookup .output
      settings := p.values.lookup .settings
      level := (p.values.lookup .level).getD "info" }

end DatasetSchema.CommandLine
