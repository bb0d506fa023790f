/-!
# Generated modules

A generated module declares one class for each definition: a struct class with one attribute for
each field, or an enumeration with one member for each class. The value of an attribute is a call of
a constructor such as `ListField(ele_type=IntField(), ordered=True)`.
-/

namespace DatasetSchema.Declaration

/-- An argument of a constructor. -/
inductive Argument where
  | call (callee : String) (arguments : List (String × Argument))
  | name (name : String)
  | text (value : String)
  | flag (value : Bool)
  deriving Repr

/-- A call of a constructor with named arguments. -/
structure Constructor where
  callee : String
  arguments : List (String × Argument)
  deriving Repr

/-- An attribute of a struct class. -/
structure Attribute where
  name : String
  value : Constructor
  deriving Repr

/-- A member of an enumeration. -/
structure Member where
  name : String
  value : String
  deriving DecidableEq, Repr

/-- A declaration of a class. -/
inductive Class where
  | struct (name : String) (attributes : List Attribute)
  | enumeration (name : String) (members : List Member)
  deriving Repr

/-- The name that a declaration binds. -/
def Class.name : Class → String
  | .struct name _ => name
  | .enumeration name _ => name

/-- Names brought in from another module. -/
structure Import where
  source : String
  names : List String
  deriving DecidableEq, Repr

/-- A generated module. -/
structure Module where
  /-- The comment in its first line. -/
  header : String
  /-- What it brings in from other modules. -/
  imports : List Import
  /-- Its classes, in the order in which they are declared. -/
  classes : List Class
  deriving Repr

end DatasetSchema.Declaration
