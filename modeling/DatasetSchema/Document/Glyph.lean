/-!
# Glyphs

A schema document is read as a list of glyphs: characters with their positions. A line end is one
glyph however it is written; the last glyph is the end of the document and stands behind its text.
Positions count bytes, lines and characters of a line, all from zero.
-/

namespace DatasetSchema.Document

/-- A place in a document. -/
structure Position where
  /-- The number of bytes before the place. -/
  offset : Nat
  /-- The number of lines before its line. -/
  line : Nat
  /-- The number of characters before it in its line. -/
  column : Nat
  deriving DecidableEq, Repr

namespace Position

/-- The first place of a document. -/
def start : Position :=
  ⟨0, 0, 0⟩

/-- The place after a character of this many bytes. -/
def after (p : Position) (bytes : Nat) : Position :=
  ⟨p.offset + bytes, p.line, p.column + 1⟩

/-- The place after a line end of this many bytes. -/
def afterLineEnd (p : Position) (bytes : Nat) : Position :=
  ⟨p.offset + bytes, p.line + 1, 0⟩

/-- The place itself if a line begins there, otherwise the same place taken for the next line. -/
def onFreshLine (p : Position) : Position :=
  if p.column = 0 then p else ⟨p.offset, p.line + 1, 0⟩

end Position

/-- A character of a document and where it stands. -/
structure Glyph where
  /-- The character; a NUL is the end of the document. -/
  char : Char
  /-- Where it stands. -/
  position : Position
  deriving DecidableEq, Repr

/-- The character of the glyph that ends a document. -/
def endChar : Char := '\x00'

/-- The byte order mark. -/
def orderMark : Char := '\ufeff'

/-- Whether a document may contain a character: control characters other than tabs and line ends are
refused. -/
def isAllowed (c : Char) : Bool :=
  let n := c.toNat
  n == 0x9 || n == 0xa || n == 0xd || (0x20 ≤ n && n ≤ 0x7e) || n == 0x85 ||
    (0xa0 ≤ n && n ≤ 0xfffd) || 0x10000 ≤ n

/-- Whether a character ends a line. -/
def isLineEnd (c : Char) : Bool :=
  c == '\n' || c == '\r' || c == '\u0085' || c == '\u2028' || c == '\u2029'

/-- Whether a character separates within a line. -/
def isBlank (c : Char) : Bool :=
  c == ' ' || c == '\t'

/-- Whether the line is over at a character. -/
def isLineOver (c : Char) : Bool :=
  isLineEnd c || c == endChar

/-- Whether a word is over at a character. -/
def isWordOver (c : Char) : Bool :=
  isBlank c || isLineOver c

/-- The character that a line end is read as: the Unicode separators keep their own. -/
def lineEndChar (c : Char) : Char :=
  if c == '\u2028' || c == '\u2029' then c else '\n'

/-- The glyphs of a text that begins at a position. -/
def glyphsFrom (p : Position) : List Char → List Glyph
  | [] => [⟨endChar, p⟩]
  | '\r' :: '\n' :: cs => ⟨'\n', p⟩ :: glyphsFrom (p.afterLineEnd 2) cs
  | c :: cs =>
    if isLineEnd c then ⟨lineEndChar c, p⟩ :: glyphsFrom (p.afterLineEnd c.utf8Size) cs
    else ⟨c, p⟩ :: glyphsFrom (p.after c.utf8Size) cs

/-- The first character of some glyphs. -/
def peek : List Glyph → Char
  | [] => endChar
  | g :: _ => g.char

/-- The position of the first of some glyphs. -/
def here : List Glyph → Position
  | [] => .start
  | g :: _ => g.position

/-- Whether the glyphs begin with three times the character and then a word is over. -/
def isTripled (c : Char) : List Glyph → Bool
  | g₁ :: g₂ :: g₃ :: rest => g₁.char == c && g₂.char == c && g₃.char == c && isWordOver (peek rest)
  | _ => false

/-- Whether the glyphs begin with a mark between documents, at the start of a line. -/
def isDocumentMark (gs : List Glyph) : Bool :=
  (here gs).column == 0 && (isTripled '-' gs || isTripled '.' gs)

/-- The longest run of glyphs with a property, and the glyphs after it. -/
def spanChars (p : Char → Bool) : List Glyph → List Char × List Glyph
  | [] => ([], [])
  | g :: gs =>
    if p g.char then
      let (cs, rest) := spanChars p gs
      (g.char :: cs, rest)
    else ([], g :: gs)

/-- The glyphs after the blanks. -/
def skipBlanks (gs : List Glyph) : List Glyph :=
  (spanChars isBlank gs).2

/-- The glyphs from the end of the line on, if nothing but blanks and a comment stands before it. -/
def skipToLineEnd? (gs : List Glyph) : Option (List Glyph) :=
  let gs := skipBlanks gs
  let gs := if peek gs == '#' then (spanChars (fun c => !isLineOver c) gs).2 else gs
  if isLineOver (peek gs) then some gs else none

/-- The glyphs after a line end, if one comes first. -/
def skipLineEnd (gs : List Glyph) : List Glyph :=
  if isLineEnd (peek gs) then gs.tail else gs

end DatasetSchema.Document
