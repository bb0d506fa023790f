import DatasetSchema.Document.Token.Folding

/-!
# Plain scalars

A plain scalar has no quotes around it. It goes on over lines that are indented enough, up
to a comment, to a colon before white space, to a mark between documents or, between
brackets, to a bracket or comma.
-/

namespace DatasetSchema.Document

/-- A plain scalar that has been read. -/
structure PlainScalar where
  /-- What it says. -/
  text : String
  /-- Whether a line ends behind it. -/
  endsLine : Bool
  /-- The glyphs after it and the white space behind it. -/
  rest : List Glyph
  deriving Repr

/-- Whether a character has a meaning of its own between brackets. -/
def isFlowMark (c : Char) : Bool :=
  c == ',' || c == '[' || c == ']' || c == '{' || c == '}'

/-- Whether a plain scalar is over after a gap whatever comes behind: at the end of the document, at
a mark between documents, at a comment, and at a line that is indented by less than `margin`
columns, unless the scalar stands between brackets (`inFlow`). -/
def isPlainOver (inFlow : Bool) (margin : Nat) (gap : Gap) (gs : List Glyph) : Bool :=
  peek gs == endChar || isDocumentMark gs ||
    (gap.isSome && (peek gs == '#' || (!inFlow && (here gs).column < margin)))

/-- Whether the glyphs begin with a colon that can neither be text between brackets nor
announce a value there. -/
def isStrayColon (gs : List Glyph) : Bool :=
  peek gs == ':' && (isFlowMark (peek gs.tail) || peek gs.tail == '?')

/-- Whether the glyphs begin with a mark that ends a plain scalar. -/
def isPlainEnd (inFlow : Bool) (gs : List Glyph) : Bool :=
  (peek gs == ':' && isWordOver (peek gs.tail)) || (inFlow && isFlowMark (peek gs))

/-- Reads on in a plain scalar; `text` is what has been read, backwards, and `gap` the white space
after it. A tab must not stand for indentation, and a stray colon is refused. -/
def plainScalar? (inFlow : Bool) (margin : Nat) (text : List Char) (gap : Gap) :
    List Glyph → Option PlainScalar
  | [] => none
  | g :: rest =>
    if isBlank g.char then
      if gap.isOverLines && g.char == '\t' && g.position.column < margin then none
      else plainScalar? inFlow margin text (gap.addBlank g.char) rest
    else if isLineEnd g.char then plainScalar? inFlow margin text (gap.addLineEnd g.char) rest
    else if isPlainOver inFlow margin gap (g :: rest) then
      some ⟨String.ofList text.reverse, gap.isOverLines, g :: rest⟩
    else if inFlow && isStrayColon (g :: rest) then none
    else if isPlainEnd inFlow (g :: rest) then
      some ⟨String.ofList text.reverse, gap.isOverLines, g :: rest⟩
    else plainScalar? inFlow margin (g.char :: (gap.fold.reverse ++ text)) .none rest

end DatasetSchema.Document
