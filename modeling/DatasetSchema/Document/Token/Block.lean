import DatasetSchema.Document.Glyph

/-!
# Block scalars

A block scalar consists of the lines that are indented by at least as much as its first one. A
literal one keeps its line ends; in a folded one a single line end between two lines that do not
begin with blanks becomes a space. The header may give the indentation, and says whether the last
line end is dropped, kept, or kept with the empty lines after it.
-/

namespace DatasetSchema.Document

/-- What happens to the line ends after the last line. -/
inductive Chomping where
  | dropAll
  | keepOne
  | keepAll
  deriving DecidableEq, Repr

/-- The header of a block scalar. -/
structure BlockHeader where
  /-- What happens to the line ends after the last line. -/
  chomping : Chomping
  /-- The indentation relative to the block around the scalar, if it is given. -/
  indent : Option Nat
  deriving DecidableEq, Repr

/-- The chomping that a character asks for. -/
def chomping? (c : Char) : Option Chomping :=
  if c == '-' then some .dropAll else if c == '+' then some .keepAll else none

/-- The indentation that a digit asks for. -/
def blockIndent? (c : Char) : Option Nat :=
  if c.isDigit then some (c.toNat - '0'.toNat) else none

/-- Reads the header of a block scalar, in which both parts are optional and may come in any order.
An indentation of zero is refused. -/
def blockHeader? (gs : List Glyph) : Option (BlockHeader × List Glyph) :=
  let header : BlockHeader × List Glyph :=
    match chomping? (peek gs), blockIndent? (peek gs) with
    | some chomping, _ =>
      match blockIndent? (peek gs.tail) with
      | some n => (⟨chomping, some n⟩, gs.tail.tail)
      | none => (⟨chomping, none⟩, gs.tail)
    | none, some n =>
      match chomping? (peek gs.tail) with
      | some chomping => (⟨chomping, some n⟩, gs.tail.tail)
      | none => (⟨.keepOne, some n⟩, gs.tail)
    | none, none => (⟨.keepOne, none⟩, gs)
  if header.1.indent == some 0 then none else some header

/-- A block scalar that is being read. -/
structure BlockScalar where
  /-- Whether the line ends inside are kept as they are. -/
  literal : Bool
  /-- The column at which its lines begin; zero as long as it is not known. -/
  indent : Nat
  /-- The largest column at which an empty line before the first line ends. -/
  widest : Nat
  /-- What has been read, backwards. -/
  text : List Char
  /-- The line end of its last line. -/
  lineEnd : List Char
  /-- The line ends of the empty lines after it. -/
  emptyLines : List Char
  /-- Whether its last line begins with white space. -/
  startsBlank : Bool
  deriving Repr

namespace BlockScalar

/-- The scalar after the first character of a line. -/
def startLine (s : BlockScalar) (c : Char) : BlockScalar :=
  let folded := !s.literal && s.lineEnd == ['\n'] && !s.startsBlank && !isBlank c
  let joint :=
    if folded then if s.emptyLines.isEmpty then [' '] else s.emptyLines
    else s.lineEnd ++ s.emptyLines
  { s with
    text := c :: (joint.reverse ++ s.text)
    lineEnd := []
    emptyLines := []
    startsBlank := isBlank c }

/-- The text of the whole scalar. -/
def finish (s : BlockScalar) (chomping : Chomping) : String :=
  let ending :=
    match chomping with
    | .dropAll => []
    | .keepOne => s.lineEnd
    | .keepAll => s.lineEnd ++ s.emptyLines
  String.ofList (s.text.reverse ++ ending)

/-- Reads on in a block scalar, inside a line or between lines, until a line is indented by
less. Inside a block the first line is indented by at least `margin` columns. A tab must not
stand for indentation. -/
def read? (margin : Nat) (s : BlockScalar) : (inLine : Bool) → List Glyph →
    Option (BlockScalar × List Glyph)
  | _, [] => none
  | true, g :: rest =>
    if g.char == endChar then some (s, g :: rest)
    else if isLineEnd g.char then read? margin { s with lineEnd := [g.char] } false rest
    else read? margin { s with text := g.char :: s.text } true rest
  | false, g :: rest =>
    let column := g.position.column
    -- As long as the indentation is not known, every space belongs to it.
    let before := s.indent == 0 || column < s.indent
    let widest := max s.widest column
    if before && g.char == ' ' then read? margin s false rest
    else if before && g.char == '\t' then none
    else if isLineEnd g.char then
      read? margin { s with widest, emptyLines := s.emptyLines ++ [g.char] } false rest
    else
      let indent := if s.indent == 0 then max (max widest margin) 1 else s.indent
      let s := { s with indent, widest }
      if column == indent && g.char != endChar then read? margin (s.startLine g.char) true rest
      else some (s, g :: rest)

end BlockScalar

/-- Reads a block scalar after the mark that announces it. -/
def blockScalar? (literal : Bool) (margin : Nat) (gs : List Glyph) :
    Option (String × List Glyph) := do
  let (header, gs) ← blockHeader? gs
  let gs ← skipToLineEnd? gs
  -- A digit counts from the column of the block around, which is one less than the margin inside
  -- it.
  let indent :=
    match header.indent with
    | some n => margin - 1 + n
    | none => 0
  let start : BlockScalar := ⟨literal, indent, 0, [], [], [], false⟩
  let (scalar, rest) ← start.read? margin false (skipLineEnd gs)
  return (scalar.finish header.chomping, rest)

end DatasetSchema.Document
