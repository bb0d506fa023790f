import DatasetSchema.Document.Token.Folding
import DatasetSchema.Number.Digits

/-!
# Quoted scalars

Between single quotes a quote is written twice and all else stands for itself. Between double quotes
a backslash begins an escape: a letter for a control character, a number for any character, or a
line end that is left out together with the blanks after it.
-/

namespace DatasetSchema.Document

/-- The character with this number, if there is one. -/
def charOfNumber? (n : Nat) : Option Char :=
  if n.isValidChar then some (Char.ofNat n) else none

/-- The character that a letter after a backslash stands for. -/
def escapedChar? (c : Char) : Option Char :=
  match c with
  | '0' => some '\x00'
  | 'a' => some '\x07'
  | 'b' => some '\x08'
  | 't' | '\t' => some '\t'
  | 'n' => some '\n'
  | 'v' => some '\x0b'
  | 'f' => some '\x0c'
  | 'r' => some '\r'
  | 'e' => some '\x1b'
  | ' ' => some ' '
  | '"' => some '"'
  | '/' => some '/'
  | '\\' => some '\\'
  | 'N' => some '\u0085'
  | '_' => some '\u00a0'
  | 'L' => some '\u2028'
  | 'P' => some '\u2029'
  | _ => none

/-- How many hexadecimal digits follow a letter after a backslash. -/
def escapeDigits? (c : Char) : Option Nat :=
  match c with
  | 'x' => some 2
  | 'u' => some 4
  | 'U' => some 8
  | _ => none

/-- What the next glyph of a quoted scalar is part of. -/
inductive QuotedPart where
  | text
  /-- An escape after its backslash, or a second single quote. -/
  | escape
  /-- The number of a character: how many digits are still to come, and the number so far. -/
  | number (digits value : Nat)
  deriving DecidableEq, Repr

/-- Reads on in a scalar between double quotes; `text` is what has been read, backwards, and `gap`
the white space after it. -/
def doubleQuoted? (text : List Char) (gap : Gap) :
    QuotedPart → List Glyph → Option (String × List Glyph)
  | _, [] => none
  | .text, g :: rest =>
    if g.char == endChar || isDocumentMark (g :: rest) then none
    else if isBlank g.char then doubleQuoted? text (gap.addBlank g.char) .text rest
    else if isLineEnd g.char then doubleQuoted? text (gap.addLineEnd g.char) .text rest
    else
      -- The white space so far is inside the scalar, so its line ends are folded.
      let text := gap.fold.reverse ++ text
      if g.char == '"' then some (String.ofList text.reverse, rest)
      else if g.char == '\\' then doubleQuoted? text .none .escape rest
      else doubleQuoted? (g.char :: text) .none .text rest
  | .escape, g :: rest =>
    -- An escaped line end joins two lines; the white space at the start of the second is left out.
    if isLineEnd g.char then doubleQuoted? text (.overLines none []) .text rest
    else
      match escapeDigits? g.char with
      | some digits => doubleQuoted? text gap (.number digits 0) rest
      | none =>
        match escapedChar? g.char with
        | some c => doubleQuoted? (c :: text) gap .text rest
        | none => none
  | .number 0 _, _ => none
  | .number (digits + 1) value, g :: rest =>
    match Number.digitValue? 16 g.char with
    | none => none
    | some digit =>
      let value := 16 * value + digit
      if digits == 0 then
        match charOfNumber? value with
        | some c => doubleQuoted? (c :: text) gap .text rest
        | none => none
      else doubleQuoted? text gap (.number digits value) rest

/-- Reads on in a scalar between single quotes; `text` is what has been read, backwards, and `gap`
the white space after it. -/
def singleQuoted? (text : List Char) (gap : Gap) : List Glyph → Option (String × List Glyph)
  | [] => none
  | g :: rest =>
    if g.char == endChar || isDocumentMark (g :: rest) then none
    else if isBlank g.char then singleQuoted? text (gap.addBlank g.char) rest
    else if isLineEnd g.char then singleQuoted? text (gap.addLineEnd g.char) rest
    else
      let text := gap.fold.reverse ++ text
      if g.char == '\'' then
        match rest with
        | next :: others =>
          if next.char == '\'' then singleQuoted? ('\'' :: text) .none others
          else some (String.ofList text.reverse, rest)
        | [] => some (String.ofList text.reverse, rest)
      else singleQuoted? (g.char :: text) .none rest

end DatasetSchema.Document
