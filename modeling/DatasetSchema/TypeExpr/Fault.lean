import DatasetSchema.Diagnostic
import DatasetSchema.FieldType
import DatasetSchema.TypeExpr.Basic

/-!
# Faults of type expressions

Why a text denotes no field type, and the diagnostic that says so. All positions count from the
start of the outermost expression, also for a fault inside the element type of a list.
-/

namespace DatasetSchema.TypeExpr

/-- Why a text denotes no field type. -/
inductive Fault where
  /-- More than `maxNesting` brackets are open at this bracket. -/
  | nestedTooDeeply (offset : Nat)
  | malformed (source : String) (place : Unexpected)
  | unknownType (name : Spanned String)
  | unexpectedParameters (kind : FieldKind) (brackets : Span)
  | missingParameters (kind : FieldKind) (span : Span)
  | unknownParameter (kind : FieldKind) (key : Spanned String)
  | duplicateParameter (kind : FieldKind) (key : String) (again : Span) (first : Option Span)
  /-- The class domain of a label is no identifier. -/
  | invalidDomain (domain : Spanned String)
  /-- A format has both kinds of quotes. -/
  | mixedQuotes (kind : FieldKind) (format : Span)
  /-- A list has more than two parameters. -/
  | tooManyParameters (count : Nat) (third : Span)
  /-- The first parameter of a list is not its element type. -/
  | elementNotFirst (key : Span)
  | invalidFlag (value : Spanned String)
  deriving DecidableEq, Repr

namespace Fault

/-- A text between backticks. -/
def code (s : String) : String :=
  "`" ++ s ++ "`"

/-- All kinds as a message lists them. -/
def knownTypes : String :=
  ", ".intercalate (FieldKind.all.map fun kind => code kind.name)

/-- What a kind with parameters cannot do without. -/
def required (kind : FieldKind) : String :=
  match kind.arity with
  | .scalar parameter => code parameter
  | _ => "an element type"

/-- An example of a kind with its parameters. -/
def exampleOf : FieldKind → String
  | .list => "e.g. `List[etype=Int]` or `List[Int,ordered=true]`"
  | .label => "e.g. `Label[dom=MyClassDom]` or `Label[MyClassDom]`"
  | _ => "e.g. `Date[fmt=\"%Y-%m-%d\"]`"

/-- The parameters that a kind accepts. -/
def accepted (kind : FieldKind) : String :=
  match kind.arity with
  | .scalar parameter => "only " ++ code parameter
  | _ => "`etype` and `ordered`"

/-- The part of the text that is unexpected: one character, or nothing at the end. -/
def unexpectedSpan (place : Unexpected) : Span :=
  Span.ofLength place.offset ((place.found.map Char.utf8Size).getD 0)

/-- The remark on what is unexpected. -/
def unexpectedText (place : Unexpected) : String :=
  match place.found with
  | some c => "unexpected `" ++ String.singleton c ++ "`"
  | none => "unexpected end of expression"

/-- What to do about an expression that is not well formed. -/
def malformedHelp (source : String) : String :=
  if source.isEmpty then "a field type cannot be empty"
  else if source.toList.count '[' ≠ source.toList.count ']' then
    "check that every `[` has a matching `]`"
  else "expected `Type` or `Type[param, name=value]`"

/-- The diagnostic for a fault, with labels on the outermost expression. -/
def diagnostic : Fault → Diagnostic
  | .nestedTooDeeply offset =>
    (Diagnostic.error .malformedExpression
        ("field type nests deeper than " ++ toString maxNesting ++ " levels")).withLabel
      (Span.ofLength offset 1) "nested too deeply"
      |>.withHelp "split the type into fewer nested lists"
  | .malformed source place =>
    (Diagnostic.error .malformedExpression ("malformed field type " ++ code source)).withLabel
      (unexpectedSpan place) (unexpectedText place)
      |>.withHelp (malformedHelp source)
  | .unknownType name =>
    (Diagnostic.error .unknownType ("unknown type " ++ code name.value)).withLabel name.span
      "not a field type"
      |>.withHelp ("expected one of " ++ knownTypes)
  | .unexpectedParameters kind brackets =>
    (Diagnostic.error .unknownType ("unknown type " ++ code (kind.name ++ "[...]"))).withLabel
      brackets "unexpected parameters"
      |>.withHelp (code kind.name ++ " does not take parameters; write " ++ code kind.name)
  | .missingParameters kind span =>
    (Diagnostic.error .missingParameters
      (code kind.name ++ " requires " ++ required kind)).withLabel span "parameters missing"
      |>.withHelp (exampleOf kind)
  | .unknownParameter kind key =>
    (Diagnostic.error .unknownParameter
        ("unknown parameter " ++ code key.value ++ " for " ++ code kind.name)).withLabel
      key.span "not accepted here"
      |>.withHelp (code kind.name ++ " accepts " ++ accepted kind)
  | .duplicateParameter kind key again first =>
    let d :=
      (Diagnostic.error .duplicateParameter
        ("duplicate parameter " ++ code key ++ " in " ++ code kind.name)).withLabel again
        "given again here"
    match first with
    | some first => d.withSecondaryLabel first "first given here"
    | none => d
  | .invalidDomain domain =>
    (Diagnostic.error .invalidIdentifier
        ("invalid dom: " ++ code domain.value ++ " is not an identifier")).withLabel
      domain.span "expected a class domain name"
      |>.withHelp "`dom` names a class_domain definition, e.g. `Label[dom=MyClassDom]`"
  | .mixedQuotes kind format =>
    (Diagnostic.error .invalidFormat
        ("format of " ++ code kind.name ++ " contains both `\"` and `'`")).withLabel
      format "cannot be quoted"
      |>.withHelp
        "a format may contain one kind of quote when wrapped in the other, e.g. `Time['%H\"%M']`"
  | .tooManyParameters count third =>
    (Diagnostic.error .tooManyParameters
        ("too many parameters in List (" ++ toString count ++ " given)")).withLabel
      third "unexpected parameter"
      |>.withHelp "`List` takes `etype` and an optional `ordered`"
  | .elementNotFirst key =>
    (Diagnostic.error .unknownParameter "List types must contain parameter `etype`").withLabel key
      "expected `etype`"
      |>.withHelp "write the element type first, e.g. `List[etype=Int]` or `List[Int]`"
  | .invalidFlag value =>
    (Diagnostic.error .invalidFlag
        ("invalid value " ++ code value.value ++ " for `ordered` of List")).withLabel
      value.span "expected `true` or `false`"
      |>.withHelp "`ordered` accepts `true` or `false` in any letter case"

end Fault

end DatasetSchema.TypeExpr
