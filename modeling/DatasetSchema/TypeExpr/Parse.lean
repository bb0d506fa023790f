import DatasetSchema.TypeExpr.Fault

/-!
# Parsing of type expressions

Before anything of a text is read, it is scanned for brackets that are too deep. So a text that is
read does not nest deeply.
-/

namespace DatasetSchema.TypeExpr

/-- The scan of a text for a bracket that is too deep. The text begins at `start` of the
outermost expression. -/
def checkNesting (start : Nat) (source : List Char) : Except Fault Unit :=
  match tooDeepAt? maxNesting .outside start source with
  | some offset => .error (.nestedTooDeeply offset)
  | none => .ok ()

/-- The type expression that a text is. -/
def parse (start : Nat) (source : List Char) : Except Fault TypeExpr := do
  checkNesting start source
  (read start source).mapError (.malformed (String.ofList source))

end DatasetSchema.TypeExpr
