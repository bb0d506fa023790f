import DatasetSchema.Draft.Basic
import DatasetSchema.Draft.Fault
import DatasetSchema.Text.WhiteSpace
import DatasetSchema.TypeExpr.Denotation

/-!
# From drafts to schemas

The definitions of a draft are checked in document order, and within a definition its fields
or classes. A name that cannot be used hides all that stands under it: it is passed over with
a note, or refused under strict settings. Everything else that is wrong is a fault, and the
first fault ends the check.
-/

namespace DatasetSchema.Draft

open Document (Value)

/-- Whether a name is taken. A name that cannot be used is noted, or refused if `strict`. -/
def acceptName (strict : Bool) (role : NameRole) (owner : Option String) (name : String) :
    Attempt Fault Bool :=
  match nameProblem? role name with
  | none => return true
  | some problem =>
    if strict then .fail (.unusableName role name owner problem)
    else do
      .note (.nameSkipped role name owner problem)
      return false

/-- The type of a field from what is written, without regard to white space. -/
def fieldType (definition field : String) (written : Value) : Except Fault FieldType :=
  match written.scalarText? with
  | none => .error (.fieldTypeNotText field definition)
  | some text =>
    let source := Text.stripWhiteSpace text
    (FieldType.denotedBy source).mapError fun fault => .fieldType fault source field definition

/-- The fields of a struct; `seen` are the names of the fields before. -/
def loadFields (strict : Bool) (definition : String) (seen : List String) :
    List (String × Value) → Attempt Fault (List Field)
  | [] => return []
  | (name, written) :: rest => do
    if ← acceptName strict .field (some definition) name then
      if seen.contains name then .fail (.duplicateMember .field name definition)
      else
        let type ← .ofExcept (fieldType definition name written)
        let others ← loadFields strict definition (name :: seen) rest
        return ⟨name, type⟩ :: others
    else loadFields strict definition seen rest

/-- The classes of a domain; `seen` are the classes before. -/
def loadClasses (strict : Bool) (definition : String) (seen : List String) :
    List Value → Attempt Fault (List String)
  | [] => return []
  | written :: rest =>
    match written.scalarText? with
    | none => .fail (.classNotText definition)
    | some name => do
      if ← acceptName strict .domainClass (some definition) name then
        match seen.find? fun other => memberName other == memberName name with
        | some other =>
          if other == name then .fail (.duplicateMember .domainClass name definition)
          else .fail (.collidingClasses other name definition)
        | none =>
          let others ← loadClasses strict definition (name :: seen) rest
          return name :: others
      else loadClasses strict definition seen rest

/-- What a definition with a usable name stands for. -/
def Definition.load (strict : Bool) (name : String) (draft : Definition) :
    Attempt Fault DatasetSchema.Definition :=
  match draft.tag with
  | none => .fail (.missingSection name "$def")
  | some tag =>
    match DefinitionKind.ofTag? tag with
    | none => .fail (.unsupportedKind name tag)
    | some .struct =>
      match draft.fields with
      | none => .fail (.missingSection name "$fields")
      | some written => do
        let fields ← loadFields strict name [] written
        return .struct fields
    | some .classDomain =>
      match draft.classes with
      | none => .fail (.missingSection name "classes")
      | some written => do
        let classes ← loadClasses strict name [] written
        return .classDomain classes

/-- Adds definitions to a schema. -/
def loadInto (strict : Bool) (schema : Schema) :
    List (String × Definition) → Attempt Fault Schema
  | [] => return schema
  | (name, draft) :: rest => do
    if ← acceptName strict .definition none name then
      let definition ← draft.load strict name
      match schema.insert? ⟨name, definition⟩ with
      | none => .fail (.duplicateDefinition name)
      | some schema =>
        .note (.definitionLoaded name definition.kind)
        loadInto strict schema rest
    else loadInto strict schema rest

end DatasetSchema.Draft

namespace DatasetSchema

/-- The schema of a draft. -/
def Draft.load (strict : Bool) (draft : Draft) : Attempt Draft.Fault Schema :=
  match draft.definitions with
  | none => .fail .noDefinitions
  | some definitions => Draft.loadInto strict .empty definitions

end DatasetSchema
