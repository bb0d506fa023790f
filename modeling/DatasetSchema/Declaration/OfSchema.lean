import DatasetSchema.Declaration.Module
import DatasetSchema.Journal

/-!
# From definitions to declarations

Every field type has a constructor, named for its kind; its parameters become arguments. Definitions
become declarations in a given order.
-/

namespace DatasetSchema

open Declaration

/-- The constructor that is called for a field type. -/
def FieldType.constructor : FieldType → Constructor
  | .plain kind => ⟨kind.name ++ "Field", []⟩
  | .label domain => ⟨"LabelField", [("dom", .name domain)]⟩
  | .date format => ⟨"DateField", [("fmt", .text format)]⟩
  | .time format => ⟨"TimeField", [("fmt", .text format)]⟩
  | .list element ordered =>
    let inner := element.constructor
    let elementArgument := ("ele_type", Argument.call inner.callee inner.arguments)
    match ordered with
    | none => ⟨"ListField", [elementArgument]⟩
    | some flag => ⟨"ListField", [elementArgument, ("ordered", .flag flag)]⟩

/-- The declaration of a definition. -/
def Definition.declaration (name : String) : Definition → Declaration.Class
  | .struct fields => .struct name (fields.map fun field => ⟨field.name, field.type.constructor⟩)
  | .classDomain classes => .enumeration name (classes.map fun c => ⟨memberName c, c⟩)

namespace Schema

/-- The header of generated modules. -/
def header : String :=
  "Generated by the dsdl parser. DO NOT EDIT!"

/-- The names that every generated module brings in. -/
def imports : List Import :=
  [⟨"dsdl.types", ["*"]⟩, ⟨"enum", ["Enum"]⟩]

/-- The definitions of the given names; a name that is not defined is passed over. -/
def entriesOf (schema : Schema) (order : List String) : List Entry :=
  order.filterMap fun name => (schema.get? name).map fun definition => ⟨name, definition⟩

/-- The module that declares the definitions of the given names in the given order. -/
def module (schema : Schema) (order : List String) : Module :=
  { header := header
    imports := imports
    classes := (schema.entriesOf order).map fun entry => entry.definition.declaration entry.name }

/-- The notes made when definitions become declarations. -/
def loweringNotes (schema : Schema) (order : List String) : List Note :=
  (schema.entriesOf order).map fun entry => .loweringDefinition entry.name entry.definition.kind

/-- The module that declares the definitions of the given names, with a note on each. -/
def noteModule {ε : Type} (schema : Schema) (order : List String) : Attempt ε Module :=
  ⟨schema.loweringNotes order, .ok (schema.module order)⟩

end Schema

end DatasetSchema
