import DatasetSchema.Journal
import DatasetSchema.TypeExpr.Fault

/-!
# Faults of drafts

Why a draft is no schema, and the diagnostic that says so. Checking stops at the first fault.
-/

namespace DatasetSchema.Draft

/-- Why a draft is no schema. -/
inductive Fault where
  | noDefinitions
  /-- A name cannot be used; `owner` is the definition it stands in. -/
  | unusableName (role : NameRole) (name : String) (owner : Option String) (problem : NameProblem)
  | missingSection (definition sectionName : String)
  | unsupportedKind (definition tag : String)
  | duplicateDefinition (definition : String)
  /-- A struct has two fields, or a domain two classes, of one name. -/
  | duplicateMember (role : NameRole) (name definition : String)
  /-- Two classes become one enum member. -/
  | collidingClasses (first second definition : String)
  /-- What is written as the type of a field is no scalar. -/
  | fieldTypeNotText (field definition : String)
  | fieldType (fault : TypeExpr.Fault) (source field definition : String)
  | classNotText (definition : String)
  deriving DecidableEq, Repr

namespace Fault

/-- The diagnostic for a fault. -/
def diagnostic : Fault → Diagnostic
  | .noDefinitions =>
    (Diagnostic.error .missingSection "schema document has no `defs` section").withHelp
      "put struct and class_domain definitions under a top-level `defs` mapping"
  | .unusableName role name owner problem =>
    let d :=
      (Diagnostic.error .invalidName
        (role.text ++ " name `" ++ name ++ "` " ++ problem.text)).withHelp problem.help
    match owner with
    | some owner => d.withLocation (definitionPlace owner)
    | none => d
  | .missingSection definition sectionName =>
    (Diagnostic.error .missingSection ("missing `" ++ sectionName ++ "`")).withLocation
      (definitionPlace definition)
  | .unsupportedKind definition tag =>
    (Diagnostic.error .unsupportedKind ("unsupported definition kind `" ++ tag ++ "`")).withLocation
      (definitionPlace definition)
      |>.withHelp "`$def` must be `struct` or `class_domain`"
  | .duplicateDefinition definition =>
    (Diagnostic.error .duplicateDefinition
        ("`" ++ definition ++ "` has already been defined")).withHelp
      "definition names must be unique across the whole document"
  | .duplicateMember role name definition =>
    (Diagnostic.error .duplicateMember
        (role.text ++ " `" ++ name ++ "` is declared more than once")).withLocation
      (definitionPlace definition)
  | .collidingClasses first second definition =>
    (Diagnostic.error .duplicateMember
        ("classes `" ++ first ++ "` and `" ++ second ++ "` both become enum member `" ++
          memberName second ++ "`")).withLocation
      (definitionPlace definition)
      |>.withHelp "class names must differ in more than letter case"
  | .fieldTypeNotText field definition =>
    (Diagnostic.error .malformedDocument "field type must be a string").withLocation
      (fieldPlace field definition)
      |>.withHelp "write the type as text, e.g. `count: Int`"
  | .fieldType fault source field definition =>
    (fault.diagnostic.withSource source).withLocation (fieldPlace field definition)
  | .classNotText definition =>
    (Diagnostic.error .malformedDocument "class name must be a string").withLocation
      (definitionPlace definition)

end Fault

end DatasetSchema.Draft
