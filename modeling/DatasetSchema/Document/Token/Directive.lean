import DatasetSchema.Document.Token.Basic
import DatasetSchema.Document.Token.Property

/-!
# Directives

A line that begins with a percent sign tells the version that the document is written for, or gives
an abbreviation that its tags use.
-/

namespace DatasetSchema.Document

/-- Reads a part of a version: one to nine digits. -/
def versionNumber? (gs : List Glyph) : Option (Nat × List Glyph) :=
  let (digits, rest) := spanChars Char.isDigit gs
  if 9 < digits.length then none else (Number.natural? 10 digits).map fun n => (n, rest)

/-- Reads a version such as `1.1`. -/
def version? (gs : List Glyph) : Option (TokenKind × List Glyph) := do
  let (major, rest) ← versionNumber? (skipBlanks gs)
  if peek rest != '.' then none
  else
    let (minor, rest) ← versionNumber? rest.tail
    return (.version major minor, rest)

/-- Reads an abbreviation such as `!e! tag:example.com,2000:`. -/
def tagAbbreviation? (gs : List Glyph) : Option (TokenKind × List Glyph) :=
  let gs := skipBlanks gs
  if peek gs != '!' then none
  else
    let (word, closed, rest) := tagHandle gs.tail
    if (!closed && !word.isEmpty) || !isBlank (peek rest) then none
    else do
      let (expansion, rest) ← tagText? true (skipBlanks rest)
      if expansion.isEmpty || !isWordOver (peek rest) then none
      else
        let handle := if closed then "!" ++ word ++ "!" else "!"
        some (.tagHandle handle expansion, rest)

/-- Reads a directive after its percent sign, to the start of the next line. -/
def directive? (gs : List Glyph) : Option (TokenKind × List Glyph) := do
  let (name, rest) := spanChars isWordChar gs
  if !isWordOver (peek rest) then none
  else
    let (kind, rest) ←
      if name == "YAML".toList then version? rest
      else if name == "TAG".toList then tagAbbreviation? rest
      else none
    let rest ← skipToLineEnd? rest
    return (kind, skipLineEnd rest)

end DatasetSchema.Document
