/-!
# TOML values

The values that a TOML document can give to its keys.
-/

namespace DatasetSchema.Toml

/-- A value of a TOML document. -/
inductive Value where
  | boolean (value : Bool)
  | integer (value : Int)
  /-- A number with a point or an exponent; its size does not matter here. -/
  | decimal
  /-- A number that is too large to be represented. -/
  | tooLarge
  /-- A date, a time or both. -/
  | dateTime
  | text (value : String)
  | array (items : List Value)
  /-- A table, with its keys in the order of the document. -/
  | table (entries : List (String × Value))
  deriving Repr

end DatasetSchema.Toml
