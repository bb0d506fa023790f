import DatasetSchema.Document.Value

/-!
# Drafts

A draft is a schema as it is read from a document, before anything is checked: entries in document
order, with repeated names kept, and values of any kind where types and classes should stand.
-/

namespace DatasetSchema.Draft

open Document (Value)

/-- A definition before it is checked. -/
structure Definition where
  /-- What is written as the kind. -/
  tag : Option String
  /-- The fields with what is written as their types. -/
  fields : Option (List (String × Value))
  /-- What is written as its classes. -/
  classes : Option (List Value)
  deriving Repr

end DatasetSchema.Draft

namespace DatasetSchema

/-- A schema before it is checked. -/
structure Draft where
  definitions : Option (List (String × Draft.Definition))
  deriving Repr

end DatasetSchema
