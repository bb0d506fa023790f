/-!
# Settings

Settings tell whether unusable names are refused or passed over, and how the
generated module is laid out.
-/

namespace DatasetSchema

/-- The settings of the compiler. -/
structure Settings where
  /-- Unusable names are refused instead of passed over. -/
  strictIdentifiers : Bool := false
  /-- The number of spaces before an attribute or a member. -/
  indentWidth : Nat := 4
  /-- The number of empty lines between two declarations. -/
  blankLines : Nat := 1
  deriving DecidableEq, Repr

end DatasetSchema
