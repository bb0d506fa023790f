import DatasetSchema.TypeExpr.Parse

/-!
# The field type that an expression denotes

The name of an expression tells its kind, and the kind how its parameters are read: `Label`, `Date`
and `Time` take one parameter, `List` an element type, which is an expression of its own, and a
flag. `FieldType.ofText` reads a whole expression; it is the inverse of `FieldType.render`.
-/

namespace DatasetSchema.TypeExpr

/-- A parameter as the only one of a kind: its key, if written, has to be `name`. -/
def checkKey (kind : FieldKind) (name : String) (parameter : TypeParameter) : Except Fault Unit :=
  match parameter.key with
  | some key => if key.value == name then .ok () else .error (.unknownParameter kind key)
  | none => .ok ()

/-- The one parameter of a kind. -/
def onlyParameter (kind : FieldKind) (name : String) (brackets : Span) :
    List TypeParameter → Except Fault TypeParameter
  | [] => .error (.missingParameters kind brackets)
  | [parameter] => do
    checkKey kind name parameter
    return parameter
  | parameter :: again :: _ => do
    checkKey kind name parameter
    checkKey kind name again
    .error (.duplicateParameter kind name again.span (some parameter.span))

/-- A text between two of the given quotes, without them. -/
def stripQuotes? (quote : Char) : List Char → Option (List Char)
  | [] => none
  | c :: cs => if c == quote && cs.getLast? == some quote then some cs.dropLast else none

/-- A format without one pair of equal quotes around it. -/
def unquote (format : List Char) : List Char :=
  match stripQuotes? '"' format with
  | some text => text
  | none => (stripQuotes? '\'' format).getD format

/-- The class domain of a label. -/
def domain (value : Spanned String) : Except Fault String :=
  if isIdentifier value.value then .ok value.value else .error (.invalidDomain value)

/-- The format of a date or a time. -/
def format (kind : FieldKind) (value : Spanned String) : Except Fault String :=
  let text := unquote value.value.toList
  if text.contains '"' && text.contains '\'' then .error (.mixedQuotes kind value.span)
  else .ok (String.ofList text)

/-- The flag of a list: `true` or `false` in any case of ASCII letters. -/
def flag? (s : String) : Option Bool :=
  let lower := s.toList.map Char.toLower
  if lower == ['t', 'r', 'u', 'e'] then some true
  else if lower == ['f', 'a', 'l', 's', 'e'] then some false
  else none

/-- The second parameter of a list: its key, if written, has to be `ordered`. -/
def checkFlagKey (parameter : TypeParameter) : Except Fault Unit :=
  match parameter.key with
  | some key =>
    if key.value == "ordered" then .ok ()
    else if key.value == "etype" then
      .error (.duplicateParameter .list "etype" parameter.span none)
    else .error (.unknownParameter .list key)
  | none => .ok ()

/-- The flag that the second parameter of a list gives. -/
def ordered (parameter : TypeParameter) : Except Fault Bool := do
  checkFlagKey parameter
  match flag? parameter.value.value with
  | some flag => return flag
  | none => .error (.invalidFlag parameter.value)

/-- The element type of a list as an expression, and the parameter of the flag. -/
def listParameters (brackets : Span) :
    List TypeParameter → Except Fault (Spanned String × Option TypeParameter)
  | [] => .error (.missingParameters .list brackets)
  | _ :: _ :: third :: rest => .error (.tooManyParameters (rest.length + 3) third.span)
  | element :: rest =>
    match element.key with
    | some key =>
      if key.value == "etype" then .ok (element.value, rest.head?)
      else .error (.elementNotFirst key.span)
    | none => .ok (element.value, rest.head?)

/-- The parameters of a kind that cannot do without. -/
def requiredParameters (kind : FieldKind) (expr : TypeExpr) :
    Except Fault (Spanned (List TypeParameter)) :=
  match expr.parameters with
  | some parameters => .ok parameters
  | none => .error (.missingParameters kind expr.name.span)

/-- The value of the one parameter of a kind. -/
def onlyValue (kind : FieldKind) (name : String) (expr : TypeExpr) :
    Except Fault (Spanned String) := do
  let parameters ← requiredParameters kind expr
  let parameter ← onlyParameter kind name parameters.span parameters.value
  return parameter.value

/-- The field type of a kind with the parameters of an expression; `denoteElement` reads the
element type of a list. -/
def ofKind (denoteElement : Spanned String → Except Fault FieldType) (kind : FieldKind)
    (expr : TypeExpr) : Except Fault FieldType :=
  match kind with
  | .label => do
    let value ← onlyValue .label "dom" expr
    return .label (← domain value)
  | .date => do
    let value ← onlyValue .date "fmt" expr
    return .date (← format .date value)
  | .time => do
    let value ← onlyValue .time "fmt" expr
    return .time (← format .time value)
  | .list => do
    let parameters ← requiredParameters .list expr
    let (element, flag) ← listParameters parameters.span parameters.value
    -- Of a fault in the element type and one in the flag the first is told.
    let elementType ← denoteElement element
    match flag with
    | none => return .list elementType none
    | some flag => return .list elementType (some (← ordered flag))
  | kind =>
    match expr.parameters with
    | none => .ok (.plain kind)
    | some parameters => .error (.unexpectedParameters kind parameters.span)

/-- The type of an expression, where `types` is asked for the type of its element. -/
def typeOf (types : Nat → List Char → Except Fault FieldType) (expr : TypeExpr) :
    Except Fault FieldType :=
  match FieldKind.ofName? expr.name.value with
  | none => .error (.unknownType expr.name)
  | some kind => ofKind (fun element => types element.span.start element.value.toList) kind expr

/-- The field type that a text denotes. The text begins at `start` of the outermost expression, and
lists inside it are followed through `levels` element types. -/
def denote : (levels start : Nat) → (source : List Char) → Except Fault FieldType
  | 0, start, _ => .error (.nestedTooDeeply start)
  | levels + 1, start, source => do
    let expr ← parse start source
    typeOf (denote levels) expr

/-- What a text denotes is what is made of its expression. -/
theorem denote_succ (levels start : Nat) (source : List Char) :
    denote (levels + 1) start source = parse start source >>= typeOf (denote levels) := rfl

end DatasetSchema.TypeExpr

namespace DatasetSchema

open TypeExpr in
/-- The field type that a whole expression denotes. Since at most `maxNesting` brackets are open at
once, one more level than that reaches every element type. -/
def FieldType.denotedBy (source : String) : Except TypeExpr.Fault FieldType :=
  denote (maxNesting + 1) 0 source.toList

/-- The field type that a whole expression denotes, or what is wrong with the expression. -/
def FieldType.ofText (source : String) : Except Diagnostic FieldType :=
  (FieldType.denotedBy source).mapError fun fault => fault.diagnostic.withSource source

end DatasetSchema
