import DatasetSchema.Naming
import DatasetSchema.Schema
import DatasetSchema.Text.Quoted

/-!
# The journal

While it works the compiler notes what it does. A note has a level, the part of the program that
made it, a message and named details. Notes are values: every function that makes some answers with
them, in order, also when it fails.
-/

namespace DatasetSchema

/-- The levels of notes, from the gravest to the most detailed. -/
inductive Level where
  | error
  | warn
  | info
  | debug
  | trace
  deriving DecidableEq, Repr

namespace Level

/-- The name of a level. -/
def text : Level → String
  | .error => "ERROR"
  | .warn => "WARN"
  | .info => "INFO"
  | .debug => "DEBUG"
  | .trace => "TRACE"

/-- The place of a level in their order. -/
def rank : Level → Nat
  | .error => 1
  | .warn => 2
  | .info => 3
  | .debug => 4
  | .trace => 5

end Level

/-- The parts of the program that make notes. -/
inductive Origin where
  /-- The program and the compiler as a whole. -/
  | compiler
  /-- The steps of one run of the command. -/
  | command
  | settings
  | reader
  | loader
  | dependency
  | declarations
  deriving DecidableEq, Repr

/-- How an origin is printed. -/
def Origin.text : Origin → String
  | .compiler => "dsdl"
  | .command => "dsdl_cli"
  | .settings => "dsdl_cli::config"
  | .reader => "dsdl_parser"
  | .loader => "dsdl_parser::loader"
  | .dependency => "dsdl::graph"
  | .declarations => "dsdl::codegen"

/-- Where settings can come from. -/
inductive SettingsPlace where
  /-- The file that the arguments name. -/
  | explicit
  /-- The file in the working directory. -/
  | nearby
  /-- The file of the user. -/
  | system
  deriving DecidableEq, Repr

/-- The word for a place of settings. -/
def SettingsPlace.text : SettingsPlace → String
  | .explicit => "explicit"
  | .nearby => "local"
  | .system => "system"

/-- What the compiler notes. -/
inductive Note where
  | starting
  | argumentsParsed
  | compilingSchema (input output : String)
  /-- Settings are read from a file. -/
  | settingsFound (place : SettingsPlace) (path : String)
  | settingsMissing (path : String)
  /-- No directory for the settings of the user is known. -/
  | settingsDirectoryUnknown
  | defaultSettings
  | readingFile (path : String)
  | parsingSchema
  | readingDocument
  /-- A name cannot be used and is passed over; `owner` is the definition it stands in. -/
  | nameSkipped (role : NameRole) (name : String) (owner : Option String) (problem : NameProblem)
  | definitionLoaded (name : String) (kind : DefinitionKind)
  | schemaLoaded (definitions : Nat)
  | schemaParsed (definitions : Nat)
  /-- The schema in full. -/
  | schemaShown
  | buildingGraph (definitions : Nat)
  | edgeAdded (dependency dependent : String)
  | undefinedReference (definition reference : String)
  | graphBuilt (nodes edges : Nat)
  | orderComputed (definitions : Nat)
  | generatingCode (declarations : Nat)
  | loweringDefinition (name : String) (kind : DefinitionKind)
  /-- The module in full. -/
  | moduleShown
  | codeGenerated (bytes : Nat)
  /-- The code is in its file. -/
  | codeWritten (path : String)
  /-- A run of the command is successful. -/
  | declarationsGenerated (path : String)
  | reported (text : String)
  | completed
  deriving DecidableEq, Repr

/-- The place in the schema that a definition is. -/
def definitionPlace (name : String) : String :=
  "definition `" ++ name ++ "`"

/-- The place in the schema that a field is. -/
def fieldPlace (field definition : String) : String :=
  "field `" ++ field ++ "` of `" ++ definition ++ "`"

namespace Note

/-- The level of a note. -/
def level : Note → Level
  | .reported _ => .error
  | .nameSkipped .. | .undefinedReference .. => .warn
  | .starting | .compilingSchema .. | .settingsFound .. | .readingFile _ | .parsingSchema
  | .readingDocument | .buildingGraph _ | .generatingCode _ | .codeWritten _
  | .declarationsGenerated _ | .completed => .info
  | .argumentsParsed | .settingsMissing _ | .settingsDirectoryUnknown | .defaultSettings
  | .definitionLoaded .. | .schemaLoaded _ | .schemaParsed _ | .graphBuilt .. | .orderComputed _
  | .loweringDefinition .. | .codeGenerated _ => .debug
  | .schemaShown | .edgeAdded .. | .moduleShown => .trace

/-- The part of the program that makes a note. -/
def origin : Note → Origin
  | .starting | .argumentsParsed | .readingFile _ | .parsingSchema | .schemaParsed _ | .schemaShown
  | .buildingGraph _ | .generatingCode _ | .moduleShown | .codeGenerated _ | .codeWritten _
  | .reported _ | .completed => .compiler
  | .compilingSchema .. | .declarationsGenerated _ => .command
  | .settingsFound .. | .settingsMissing _ | .settingsDirectoryUnknown | .defaultSettings =>
    .settings
  | .readingDocument | .schemaLoaded _ => .reader
  | .nameSkipped .. | .definitionLoaded .. => .loader
  | .edgeAdded .. | .undefinedReference .. | .graphBuilt .. | .orderComputed _ => .dependency
  | .loweringDefinition .. => .declarations

/-- The message of a note. -/
def message : Note → String
  | .starting => "Starting DSDL"
  | .argumentsParsed => "Parsed arguments"
  | .compilingSchema .. => "Compiling schema"
  | .settingsFound place _ => "Loading configuration from " ++ place.text ++ " path"
  | .settingsMissing _ => "System configuration file not found"
  | .settingsDirectoryUnknown => "Could not determine platform-specific config directory"
  | .defaultSettings => "No configuration file found, using default configuration"
  | .readingFile _ => "Reading schema file"
  | .parsingSchema => "Parsing schema"
  | .readingDocument => "Reading schema document"
  | .nameSkipped .. => "Skipping unusable name"
  | .definitionLoaded .. => "Loaded definition"
  | .schemaLoaded _ => "Schema loaded"
  | .schemaParsed _ => "Schema parsed successfully"
  | .schemaShown => "Parsed schema"
  | .buildingGraph _ => "Building dependency graph"
  | .edgeAdded .. => "Added dependency edge"
  | .undefinedReference .. => "Reference to an undefined definition"
  | .graphBuilt .. => "Dependency graph built"
  | .orderComputed _ => "Emission order computed"
  | .generatingCode _ => "Generating code"
  | .loweringDefinition .. => "Lowering definition"
  | .moduleShown => "Lowered module"
  | .codeGenerated _ => "Code generated successfully"
  | .codeWritten _ => "Generated code written"
  | .declarationsGenerated _ => "Python declarations generated successfully"
  | .reported text => text
  | .completed => "Completed successfully"

/-- The details of a note by their names. -/
def details : Note → List (String × String)
  | .compilingSchema input output => [("input_path", input), ("output_path", output)]
  | .settingsFound _ path | .settingsMissing path => [("path", path)]
  | .readingFile path => [("input", Text.quoted path)]
  | .nameSkipped role name owner problem =>
    [("name", name), ("kind", role.text),
     ("location", (owner.map definitionPlace).getD "defs"), ("problem", problem.text)]
  | .definitionLoaded name kind | .loweringDefinition name kind =>
    [("definition", name), ("kind", kind.tag)]
  | .schemaLoaded count | .schemaParsed count | .buildingGraph count | .orderComputed count =>
    [("definitions", toString count)]
  | .edgeAdded dependency dependent => [("from", dependency), ("to", dependent)]
  | .undefinedReference definition reference =>
    [("definition", definition), ("reference", reference)]
  | .graphBuilt nodes edges => [("nodes", toString nodes), ("edges", toString edges)]
  | .generatingCode count => [("declarations", toString count)]
  | .codeGenerated bytes => [("bytes", toString bytes)]
  | .codeWritten path => [("output", Text.quoted path)]
  | .declarationsGenerated path => [("output_file", path)]
  | .starting | .argumentsParsed | .settingsDirectoryUnknown | .defaultSettings | .parsingSchema
  | .readingDocument | .schemaShown | .moduleShown | .reported _ | .completed => []

end Note

/-- An outcome together with the notes made on the way to it. -/
structure Attempt (ε α : Type) where
  /-- The notes, in the order in which they were made. -/
  notes : List Note
  /-- How it ended. -/
  outcome : Except ε α

namespace Attempt

variable {ε α β : Type}

/-- A result without notes. -/
protected def pure (a : α) : Attempt ε α :=
  ⟨[], .ok a⟩

/-- Goes on with the result of an attempt; a failure ends the whole, and all notes are kept. -/
protected def bind (x : Attempt ε α) (f : α → Attempt ε β) : Attempt ε β :=
  match x.outcome with
  | .ok a => ⟨x.notes ++ (f a).notes, (f a).outcome⟩
  | .error e => ⟨x.notes, .error e⟩

/-- Attempts follow one another, and their notes do so too. -/
instance : Monad (Attempt ε) where
  pure := Attempt.pure
  bind := Attempt.bind

/-- Makes one note. -/
def note (n : Note) : Attempt ε Unit :=
  ⟨[n], .ok ()⟩

/-- A failure. -/
def fail (e : ε) : Attempt ε α :=
  ⟨[], .error e⟩

/-- An outcome without notes. -/
def ofExcept (x : Except ε α) : Attempt ε α :=
  ⟨[], x⟩

/-- The attempt with another account of its failure. -/
def mapError {ε' : Type} (f : ε → ε') (x : Attempt ε α) : Attempt ε' α :=
  ⟨x.notes, x.outcome.mapError f⟩

end Attempt

end DatasetSchema
