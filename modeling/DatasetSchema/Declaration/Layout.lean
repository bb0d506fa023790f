import DatasetSchema.Declaration.Module
import DatasetSchema.Settings.Basic

/-!
# The text of a generated module

A module is written line by line: the header as a comment, an empty line, the imports, and the
declarations, the first one after two empty lines and the others after as many as the settings say.
A class without attributes or members has the body `pass`.
-/

namespace DatasetSchema.Declaration

/-- How a character is written in a text literal. -/
def literalChar (c : Char) : List Char :=
  if c == '\\' then ['\\', '\\']
  else if c == '"' then ['\\', '"']
  else if c == '\n' then ['\\', 'n']
  else [c]

/-- A text literal. -/
def literal (value : String) : String :=
  "\"" ++ String.ofList (value.toList.flatMap literalChar) ++ "\""

mutual

/-- An argument as it is written. -/
def Argument.render : Argument → String
  | .call callee arguments => callee ++ "(" ++ renderArguments arguments ++ ")"
  | .name name => name
  | .text value => literal value
  | .flag true => "True"
  | .flag false => "False"

/-- Arguments with their names, separated by commas. -/
def renderArguments : List (String × Argument) → String
  | [] => ""
  | [(name, argument)] => name ++ "=" ++ argument.render
  | (name, argument) :: rest =>
    name ++ "=" ++ argument.render ++ ", " ++ renderArguments rest

end

/-- A call of a constructor as it is written. -/
def Constructor.render (constructor : Constructor) : String :=
  constructor.callee ++ "(" ++ renderArguments constructor.arguments ++ ")"

/-- An import in a line of its own. -/
def Import.line (i : Import) : String :=
  "from " ++ i.source ++ " import " ++ ", ".intercalate i.names ++ "\n"

/-- The lines of a class: what it is, and its body indented. -/
def classLines (indentWidth : Nat) (name base : String) (body : List String) : String :=
  let indent := String.ofList (List.replicate indentWidth ' ')
  let body := if body.isEmpty then ["pass"] else body
  "class " ++ name ++ "(" ++ base ++ "):\n" ++
    String.join (body.map fun line => indent ++ line ++ "\n")

/-- A declaration as it is written. -/
def Class.render (indentWidth : Nat) : Class → String
  | .struct name attributes =>
    classLines indentWidth name "Struct" (attributes.map fun a => a.name ++ " = " ++ a.value.render)
  | .enumeration name members =>
    classLines indentWidth name "Enum" (members.map fun m => m.name ++ " = " ++ literal m.value)

/-- Empty lines. -/
def emptyLines (count : Nat) : String :=
  String.ofList (List.replicate count '\n')

/-- The declarations as they are written. -/
def renderClasses (settings : Settings) : List Class → String
  | [] => ""
  | first :: rest =>
    emptyLines 2 ++ first.render settings.indentWidth ++
      String.join (rest.map fun c =>
        emptyLines settings.blankLines ++ c.render settings.indentWidth)

/-- A module as it is written. -/
def Module.render (settings : Settings) (m : Module) : String :=
  "# " ++ m.header ++ "\n\n" ++ String.join (m.imports.map Import.line) ++
    renderClasses settings m.classes

end DatasetSchema.Declaration
