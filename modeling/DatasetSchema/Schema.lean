import DatasetSchema.FieldType

/-!
# Schemas

A schema is a list of definitions in the order of their declaration: structs with typed fields, and
class domains. No two definitions have one name.
-/

namespace DatasetSchema

/-- The kinds of definitions. -/
inductive DefinitionKind where
  | struct
  | classDomain
  deriving DecidableEq, Repr

namespace DefinitionKind

/-- The tag of a kind in schema documents. -/
def tag : DefinitionKind → String
  | .struct => "struct"
  | .classDomain => "class_domain"

/-- The kind with a given tag. -/
def ofTag? (s : String) : Option DefinitionKind :=
  if s == "struct" then some .struct else if s == "class_domain" then some .classDomain else none

end DefinitionKind

/-- A field of a struct. -/
structure Field where
  name : String
  type : FieldType
  deriving DecidableEq, Repr

/-- What a name of a schema stands for. -/
inductive Definition where
  | struct (fields : List Field)
  | classDomain (classes : List String)
  deriving DecidableEq, Repr

namespace Definition

/-- The kind of a definition. -/
def kind : Definition → DefinitionKind
  | .struct _ => .struct
  | .classDomain _ => .classDomain

/-- The names that a definition refers to, in field order, one for every occurrence. -/
def references : Definition → List String
  | .struct fields => fields.flatMap (·.type.references)
  | .classDomain _ => []

end Definition

/-- A definition together with its name. -/
structure Entry where
  name : String
  definition : Definition
  deriving DecidableEq, Repr

/-- Definitions in the order of their declaration, with pairwise distinct names. -/
structure Schema where
  entries : List Entry
  nodup_names : (entries.map Entry.name).Nodup
  deriving DecidableEq

namespace Schema

/-- The schema without definitions. -/
def empty : Schema :=
  ⟨[], List.nodup_nil⟩

/-- The defined names in the order of their declaration. -/
def names (schema : Schema) : List String :=
  schema.entries.map Entry.name

/-- The number of definitions. -/
def size (schema : Schema) : Nat :=
  schema.entries.length

/-- Whether a name is defined. -/
def contains (schema : Schema) (name : String) : Bool :=
  schema.names.contains name

/-- The definition of a name. -/
def get? (schema : Schema) (name : String) : Option Definition :=
  (schema.entries.find? fun entry => entry.name == name).map Entry.definition

/-- The place of a name in the order of declaration. -/
def position? (schema : Schema) (name : String) : Option Nat :=
  schema.names.idxOf? name

/-- Adds a definition at the end, unless its name is defined already. -/
def insert? (schema : Schema) (entry : Entry) : Option Schema :=
  if h : entry.name ∈ schema.entries.map Entry.name then none
  else
    some
      { entries := schema.entries ++ [entry]
        nodup_names := by
          rw [List.map_append, List.nodup_append]
          refine ⟨schema.nodup_names, by simp, ?_⟩
          rintro a ha b hb rfl
          simp only [List.map_cons, List.map_nil, List.mem_singleton] at hb
          exact h (hb ▸ ha) }

/-- An insertion fails exactly if the name is defined already. -/
theorem insert?_eq_none_iff (schema : Schema) (entry : Entry) :
    schema.insert? entry = none ↔ entry.name ∈ schema.names := by
  unfold insert? names
  split <;> simp_all

/-- An insertion puts the definition last. -/
theorem entries_of_insert? {schema result : Schema} {entry : Entry}
    (h : schema.insert? entry = some result) : result.entries = schema.entries ++ [entry] := by
  unfold insert? at h
  split at h
  · cases h
  · cases h; rfl

end Schema

end DatasetSchema
