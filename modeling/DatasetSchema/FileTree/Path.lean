/-!
# Paths

A path names a file or directory by the names of the directories that lead to it, separated by
slashes. A `.` stands for the directory itself and `..` for the one around it. A slash at the front
starts at the root; without one the path starts at the working directory.
-/

namespace DatasetSchema

/-- A path, cut at its slashes. -/
structure Path where
  /-- Whether the path starts at the root. -/
  isAbsolute : Bool
  /-- The names between the slashes. -/
  parts : List String
  /-- Whether a slash follows the last name. -/
  endsWithSlash : Bool
  deriving DecidableEq, Repr

namespace Path

/-- Cuts a text at its slashes; there is always at least one piece. -/
def pieces : List Char → List (List Char)
  | [] => [[]]
  | c :: cs =>
    if c == '/' then [] :: pieces cs
    else
      match pieces cs with
      | [] => [[c]]
      | piece :: others => (c :: piece) :: others

/-- The path that a text is. -/
def ofText (text : String) : Path :=
  let cs := text.toList
  { isAbsolute := cs.head? == some '/'
    parts := ((pieces cs).filter (!·.isEmpty)).map String.ofList
    endsWithSlash := cs.getLast? == some '/' }

/-- The names that a path is made of. A `.` is no name. -/
def names (path : Path) : List String :=
  path.parts.filter (· != ".")

/-- Removes what does not change where a path leads from its end: slashes, and each `.` behind one.
The text is given backwards. -/
def trimEnd : List Char → List Char
  | '/' :: cs => trimEnd cs
  | '.' :: '/' :: cs => trimEnd ('/' :: cs)
  | cs => cs

/-- A name without its extension; the name is given backwards. An extension begins at the
last dot, unless the name begins there. -/
def withoutExtension (name : List Char) : List Char :=
  match name.dropWhile (· != '.') with
  | _ :: c :: cs => c :: cs
  | _ => name

/-- The path with another extension in place of its own. A path that does not end with
a name stays as it is. -/
def withExtension (text extension : String) : String :=
  let backwards := trimEnd text.toList.reverse
  let name := backwards.takeWhile (· != '/')
  if name == [] || name == ['.'] || name == ['.', '.'] then text
  else
    let directory := backwards.dropWhile (· != '/')
    String.ofList (withoutExtension name ++ directory).reverse ++ "." ++ extension

end Path

end DatasetSchema
