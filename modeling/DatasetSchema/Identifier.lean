import DatasetSchema.Text.Alphabetic
import DatasetSchema.Text.Numeric
import DatasetSchema.Text.Uppercase

/-!
# Identifiers

Definitions, fields and classes are named by identifiers. Definitions and fields become names of the
generated Python module, where some identifiers are reserved words; a class becomes an enum member
spelled in upper case.
-/

namespace DatasetSchema

/-- A character that may stand inside an identifier: a letter, a number or `_`. -/
def isNameChar (c : Char) : Bool :=
  Text.isAlphabetic c || Text.isNumeric c || c == '_'

/-- A character that may start an identifier: a letter or `_`. -/
def isNameStart (c : Char) : Bool :=
  Text.isAlphabetic c || c == '_'

/-- Whether a text is an identifier: a letter or `_`, followed by letters, numbers and `_`. -/
def isIdentifier (s : String) : Bool :=
  match s.toList with
  | [] => false
  | c :: cs => isNameStart c && cs.all isNameChar

/-- The reserved words of Python 3, which no class or attribute can be called by. -/
def reservedWords : List String :=
  ["False", "None", "True", "and", "as", "assert", "async", "await", "break", "class", "continue",
   "def", "del", "elif", "else", "except", "finally", "for", "from", "global", "if", "import", "in",
   "is", "lambda", "nonlocal", "not", "or", "pass", "raise", "return", "try", "while",
   "with", "yield"]

/-- Whether a text is a reserved word of Python 3. -/
def isReservedWord (s : String) : Bool :=
  reservedWords.contains s

/-- The name of the enum member that a class becomes. -/
def memberName (className : String) : String :=
  Text.uppercase className

end DatasetSchema
