import DatasetSchema.Diagnostic
import DatasetSchema.FileTree.Problem

/-!
# Failures and reports

A failure is why a compilation does not end with a generated module. It is reported to the user in
one or more reports: one for every diagnostic, or a single one for a failure that has none.
-/

namespace DatasetSchema

/-- Why a compilation fails. -/
inductive Failure where
  | access (problem : FileProblem)
  /-- The document is no schema; `source` is its text. -/
  | parse (diagnostics : List Diagnostic) (source : String)
  /-- The definitions have no order. -/
  | graph (diagnostics : List Diagnostic)
  | settings (message : String)
  /-- The module cannot be written down. -/
  | output (message : String)
  deriving DecidableEq, Repr

namespace Failure

/-- A failure in one line. -/
def text : Failure → String
  | .access problem => "I/O error: " ++ problem.text
  | .parse diagnostics _ => Diagnostic.textOfAll diagnostics
  | .graph diagnostics => Diagnostic.textOfAll diagnostics
  | .settings message => "Configuration error: " ++ message
  | .output message => "Output error: " ++ message

/-- The group of the fault, for failures with diagnostics. -/
def kind : Failure → Option ErrorKind
  | .parse diagnostics _ => Diagnostic.kindOfAll diagnostics
  | .graph diagnostics => Diagnostic.kindOfAll diagnostics
  | _ => none

/-- The failure that text cannot be put in its form. -/
def ofFormatting : Failure :=
  .output "an error occurred when formatting an argument"

end Failure

/-- What is shown to the user about a failure. -/
inductive Report where
  /-- A diagnostic and the text of the schema document, if it is about one. -/
  | diagnostic (d : Diagnostic) (document : Option String)
  | failure (f : Failure)
  deriving DecidableEq, Repr

namespace Report

/-- The main line of a report. -/
def text : Report → String
  | .diagnostic d _ => d.locatedMessage
  | .failure f => f.text

/-- The code shown with a report. -/
def code : Report → Option String
  | .diagnostic d _ => d.code.map ErrorCode.text
  | .failure (.access _) => some "dsdl::io"
  | .failure (.settings _) => some "dsdl::config"
  | .failure (.output _) => some "dsdl::output"
  | .failure (.parse _ _) | .failure (.graph _) => none

/-- How grave the fault is, if that is said. -/
def severity : Report → Option Severity
  | .diagnostic d _ => some d.severity
  | .failure _ => none

/-- The advice shown with a report. -/
def help : Report → Option String
  | .diagnostic d _ => d.help
  | .failure _ => none

/-- The text that the labels are about: the one that the diagnostic carries, or else the
document. -/
def labelledText : Report → Option String
  | .diagnostic d document => d.source <|> document
  | .failure _ => none

/-- The labels, if they can be shown: there have to be some, and a text that they are about. -/
def labels : Report → Option (List Label)
  | .diagnostic d document =>
    if d.labels.isEmpty || (diagnostic d document).labelledText.isNone then none else some d.labels
  | .failure _ => none

/-- Whether a text is shown with the report. -/
def showsText (r : Report) : Bool :=
  r.labels.isSome

/-- Whether the report names something outside of the program as its cause. -/
def hasCause : Report → Bool
  | .failure (.access _) => true
  | _ => false

end Report

/-- The reports for a failure. -/
def Failure.reports : Failure → List Report
  | .parse diagnostics source => diagnostics.map fun d => .diagnostic d (some source)
  | .graph diagnostics => diagnostics.map fun d => .diagnostic d none
  | f => [.failure f]

end DatasetSchema
