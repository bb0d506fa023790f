import DatasetSchema.Identifier

/-!
# Usable names

A name can be used if it is an identifier and, where it becomes a name of the generated
module, not a reserved word. Classes appear there only in upper case and as texts, so
reserved words may name classes.
-/

namespace DatasetSchema

/-- What a name is given to. -/
inductive NameRole where
  | definition
  | field
  | domainClass
  deriving DecidableEq, Repr

namespace NameRole

/-- The word for a role. -/
def text : NameRole → String
  | .definition => "definition"
  | .field => "field"
  | .domainClass => "class"

/-- Whether a name in this role becomes a name of the generated module. -/
def isBound : NameRole → Bool
  | .domainClass => false
  | _ => true

end NameRole

/-- Why a name cannot be used. -/
inductive NameProblem where
  | notIdentifier
  /-- The language of the generated module reserves it. -/
  | reserved
  deriving DecidableEq, Repr

namespace NameProblem

/-- What is said of the name. -/
def text : NameProblem → String
  | .notIdentifier => "is not an identifier"
  | .reserved => "is a Python keyword"

/-- What to do about the name. -/
def help : NameProblem → String
  | .notIdentifier => "names start with a letter or `_` and contain only letters, digits, and `_`"
  | .reserved => "the generated module cannot bind a keyword; rename it"

end NameProblem

/-- Why a name cannot be used in a role, if it cannot. -/
def nameProblem? (role : NameRole) (name : String) : Option NameProblem :=
  if !isIdentifier name then some .notIdentifier
  else if role.isBound && isReservedWord name then some .reserved
  else none

end DatasetSchema
