/-!
# Field types

A field of a struct has a field type: a plain kind such as `Int`, a label drawn from a class
domain, a date or time with a format, or a list of such. `FieldType.render` writes a type as the
expression that denotes it.
-/

namespace DatasetSchema

/-- The kinds of field types, in the order in which messages list them. -/
inductive FieldKind where
  | bool
  | num
  | int
  | str
  | coord
  | coord3D
  | interval
  | bbox
  | polygon
  | image
  | label
  | date
  | time
  | list
  deriving DecidableEq, Repr

/-- What a kind takes between brackets. -/
inductive Arity where
  /-- Nothing: the kind stands alone. -/
  | parameterless
  /-- One parameter with this name, which need not be written. -/
  | scalar (parameter : String)
  /-- An element type and an optional flag. -/
  | container
  deriving DecidableEq, Repr

namespace FieldKind

/-- All kinds. -/
def all : List FieldKind :=
  [.bool, .num, .int, .str, .coord, .coord3D, .interval, .bbox, .polygon, .image, .label, .date,
   .time, .list]

/-- The name of a kind in type expressions. -/
def name : FieldKind → String
  | .bool => "Bool"
  | .num => "Num"
  | .int => "Int"
  | .str => "Str"
  | .coord => "Coord"
  | .coord3D => "Coord3D"
  | .interval => "Interval"
  | .bbox => "BBox"
  | .polygon => "Polygon"
  | .image => "Image"
  | .label => "Label"
  | .date => "Date"
  | .time => "Time"
  | .list => "List"

/-- The kind with a given name. -/
def ofName? (s : String) : Option FieldKind :=
  all.find? fun kind => kind.name == s

/-- What the kind takes between brackets. -/
def arity : FieldKind → Arity
  | .label => .scalar "dom"
  | .date | .time => .scalar "fmt"
  | .list => .container
  | _ => .parameterless

end FieldKind

/-- The type of a struct field. -/
inductive FieldType where
  | plain (kind : FieldKind)
  /-- A class of the named class domain. -/
  | label (domain : String)
  | date (format : String)
  | time (format : String)
  /-- A list of elements; `ordered` tells whether their order matters, if it was said. -/
  | list (element : FieldType) (ordered : Option Bool)
  deriving DecidableEq, Repr

namespace FieldType

/-- The kind of a type. -/
def kind : FieldType → FieldKind
  | .plain kind => kind
  | .label _ => .label
  | .date _ => .date
  | .time _ => .time
  | .list _ _ => .list

/-- A format between quotes: double ones, or single ones around a format that has double ones. -/
def quoteFormat (format : String) : String :=
  if format.toList.contains '"' then "'" ++ format ++ "'" else "\"" ++ format ++ "\""

/-- The `ordered` parameter of a list type, with the comma before it. -/
def renderOrdered : Option Bool → String
  | none => ""
  | some true => ",ordered=true"
  | some false => ",ordered=false"

/-- The expression that denotes a type, with every parameter named. -/
def render : FieldType → String
  | .plain kind => kind.name
  | .label domain => "Label[dom=" ++ domain ++ "]"
  | .date format => "Date[fmt=" ++ quoteFormat format ++ "]"
  | .time format => "Time[fmt=" ++ quoteFormat format ++ "]"
  | .list element ordered => "List[etype=" ++ element.render ++ renderOrdered ordered ++ "]"

/-- The names of the class domains that a type refers to. -/
def references : FieldType → List String
  | .label domain => [domain]
  | .list element _ => element.references
  | _ => []

end FieldType

end DatasetSchema
