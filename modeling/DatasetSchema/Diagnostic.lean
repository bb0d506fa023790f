import DatasetSchema.Span

/-!
# Diagnostics

A diagnostic tells what is wrong with a schema: a message with a code, labels on parts of a text,
the place in the schema, and advice. A failed phase answers with a list of diagnostics.
-/

namespace DatasetSchema

/-- How grave a diagnostic is. -/
inductive Severity where
  /-- Nothing is generated. -/
  | error
  /-- Something is generated, but it should be looked at. -/
  | warning
  deriving DecidableEq, Repr

/-- The word for a severity. -/
def Severity.text : Severity → String
  | .error => "error"
  | .warning => "warning"

/-- The groups of faults. -/
inductive ErrorKind where
  | unknownType
  | grammar
  | duplicateDefinition
  | circularDefinition
  | document
  deriving DecidableEq, Repr

/-- A group of faults in words. -/
def ErrorKind.text : ErrorKind → String
  | .unknownType => "unknown type"
  | .grammar => "grammar syntax error"
  | .duplicateDefinition => "duplicate definition"
  | .circularDefinition => "circular definition"
  | .document => "malformed document"

/-- The codes of diagnostics. -/
inductive ErrorCode where
  /-- No kind of field types has the name, or not with parameters. -/
  | unknownType
  | missingParameters
  | tooManyParameters
  | unknownParameter
  | duplicateParameter
  | invalidFlag
  | invalidIdentifier
  | malformedExpression
  /-- A format cannot be put between quotes. -/
  | invalidFormat
  | malformedDocument
  | duplicateDefinition
  /-- A definition is neither a struct nor a class domain. -/
  | unsupportedKind
  | invalidName
  | missingSection
  | duplicateMember
  | circularDefinition
  deriving DecidableEq, Repr

namespace ErrorCode

/-- All codes. -/
def all : List ErrorCode :=
  [.unknownType, .missingParameters, .tooManyParameters, .unknownParameter, .duplicateParameter,
   .invalidFlag, .invalidIdentifier, .malformedExpression, .invalidFormat, .malformedDocument,
   .duplicateDefinition, .unsupportedKind, .invalidName, .missingSection, .duplicateMember,
   .circularDefinition]

/-- A code as it is printed. -/
def text : ErrorCode → String
  | .unknownType => "E100"
  | .missingParameters => "E101"
  | .tooManyParameters => "E102"
  | .unknownParameter => "E103"
  | .duplicateParameter => "E104"
  | .invalidFlag => "E105"
  | .invalidIdentifier => "E106"
  | .malformedExpression => "E107"
  | .invalidFormat => "E108"
  | .malformedDocument => "E200"
  | .duplicateDefinition => "E201"
  | .unsupportedKind => "E202"
  | .invalidName => "E203"
  | .missingSection => "E204"
  | .duplicateMember => "E205"
  | .circularDefinition => "E300"

/-- The code with a given text. -/
def ofText? (s : String) : Option ErrorCode :=
  all.find? fun code => code.text == s

/-- What a code stands for. -/
def description : ErrorCode → String
  | .unknownType => "unknown field type"
  | .missingParameters => "missing parameters"
  | .tooManyParameters => "too many parameters"
  | .unknownParameter => "unknown parameter"
  | .duplicateParameter => "duplicate parameter"
  | .invalidFlag => "invalid boolean literal"
  | .invalidIdentifier => "invalid identifier"
  | .malformedExpression => "malformed type expression"
  | .invalidFormat => "invalid format string"
  | .malformedDocument => "malformed schema document"
  | .duplicateDefinition => "duplicate definition"
  | .unsupportedKind => "unsupported definition kind"
  | .invalidName => "invalid name"
  | .missingSection => "missing section"
  | .duplicateMember => "duplicate member"
  | .circularDefinition => "circular definition"

/-- The group that a code belongs to. -/
def kind : ErrorCode → ErrorKind
  | .unknownType => .unknownType
  | .missingParameters | .tooManyParameters | .unknownParameter | .duplicateParameter
  | .invalidFlag | .invalidIdentifier | .malformedExpression | .invalidFormat => .grammar
  | .duplicateDefinition => .duplicateDefinition
  | .circularDefinition => .circularDefinition
  | .malformedDocument | .unsupportedKind | .invalidName | .missingSection | .duplicateMember =>
    .document

end ErrorCode

/-- A remark on a part of a text. -/
structure Label where
  /-- The part that is remarked on. -/
  span : Span
  /-- The remark. -/
  text : String
  /-- Whether it marks the fault itself and not a place related to it. -/
  isPrimary : Bool
  deriving DecidableEq, Repr

/-- What is wrong with a schema. -/
structure Diagnostic where
  /-- Whether anything is generated all the same. -/
  severity : Severity
  /-- The code of the fault; a remark need not have one. -/
  code : Option ErrorCode
  /-- What is wrong. -/
  message : String
  /-- The place in the schema. -/
  location : Option String
  /-- Remarks on parts of the source. -/
  labels : List Label
  /-- What can be done about it. -/
  help : Option String
  /-- The text that the labels are about, if it is not the schema document. -/
  source : Option String
  deriving DecidableEq, Repr

namespace Diagnostic

/-- A diagnostic that has only a message. -/
def ofMessage (severity : Severity) (message : String) : Diagnostic :=
  { severity, message, code := none, location := none, labels := [], help := none, source := none }

/-- An error that has only a code and a message. -/
def error (code : ErrorCode) (message : String) : Diagnostic :=
  { ofMessage .error message with code := some code }

/-- The diagnostic with this code. -/
def withCode (d : Diagnostic) (code : ErrorCode) : Diagnostic :=
  { d with code := some code }

/-- The diagnostic with one more label, on the fault itself. -/
def withLabel (d : Diagnostic) (span : Span) (text : String) : Diagnostic :=
  { d with labels := d.labels ++ [⟨span, text, true⟩] }

/-- The diagnostic with one more label, on a place related to the fault. -/
def withSecondaryLabel (d : Diagnostic) (span : Span) (text : String) : Diagnostic :=
  { d with labels := d.labels ++ [⟨span, text, false⟩] }

/-- The diagnostic with this advice. -/
def withHelp (d : Diagnostic) (help : String) : Diagnostic :=
  { d with help := some help }

/-- The diagnostic at a place in the schema; a place that it has already is kept. -/
def withLocation (d : Diagnostic) (location : String) : Diagnostic :=
  { d with location := d.location <|> some location }

/-- The diagnostic about a text of its own; a text that it has already is kept. -/
def withSource (d : Diagnostic) (source : String) : Diagnostic :=
  { d with source := d.source <|> some source }

/-- The group of the fault. -/
def kind (d : Diagnostic) : Option ErrorKind :=
  d.code.map ErrorCode.kind

/-- The message followed by the place in the schema. -/
def locatedMessage (d : Diagnostic) : String :=
  match d.location with
  | some location => d.message ++ " (in " ++ location ++ ")"
  | none => d.message

/-- The diagnostic in one line, such as `error[E100]: message (in location)`. -/
def text (d : Diagnostic) : String :=
  let code :=
    match d.code with
    | some code => "[" ++ code.text ++ "]"
    | none => ""
  d.severity.text ++ code ++ ": " ++ d.locatedMessage

/-- The group of the first diagnostic that has a code. -/
def kindOfAll (ds : List Diagnostic) : Option ErrorKind :=
  ds.findSome? kind

/-- Diagnostics in one line: the first one, and how many follow. -/
def textOfAll : List Diagnostic → String
  | [] => ""
  | [d] => d.text
  | d :: ds => d.text ++ " (+" ++ toString ds.length ++ " more)"

end Diagnostic

end DatasetSchema
