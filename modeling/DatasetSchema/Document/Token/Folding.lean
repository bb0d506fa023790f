import DatasetSchema.Document.Glyph

/-!
# Line folding

White space inside a quoted or plain scalar is a gap between two pieces of its text. Inside a line a
gap is kept. A gap over line ends drops the blanks around them; a single line end becomes a space,
and of several the first is dropped.
-/

namespace DatasetSchema.Document

/-- White space between two pieces of a scalar. -/
inductive Gap where
  | inLine (blanks : List Char)
  /-- Line ends: the first one, unless it was escaped, and those after it. -/
  | overLines (first : Option Char) (others : List Char)
  deriving DecidableEq, Repr

namespace Gap

/-- No white space at all. -/
def none : Gap := .inLine []

/-- Whether there is white space. -/
def isSome : Gap → Bool
  | .inLine blanks => !blanks.isEmpty
  | .overLines _ _ => true

/-- Whether the gap goes over a line end. -/
def isOverLines : Gap → Bool
  | .inLine _ => false
  | .overLines _ _ => true

/-- The gap with one more blank. -/
def addBlank : Gap → Char → Gap
  | .inLine blanks, c => .inLine (blanks ++ [c])
  | gap, _ => gap

/-- The gap with one more line end. -/
def addLineEnd : Gap → Char → Gap
  | .inLine _, c => .overLines (some c) []
  | .overLines first others, c => .overLines first (others ++ [c])

/-- What the gap contributes to the text. -/
def fold : Gap → List Char
  | .inLine blanks => blanks
  | .overLines (some '\n') [] => [' ']
  | .overLines (some '\n') others => others
  | .overLines first others => first.toList ++ others

end Gap

end DatasetSchema.Document
