import DatasetSchema.Document.Token.Quoted

/-!
# Anchors and tags

Before its content a node may have an anchor, by which aliases refer to it, and a tag, which says
of what kind the content is. A tag is a handle and a suffix; inside angle brackets it is written
in full. Tags may spell characters by the bytes of their UTF-8 form, each as two hexadecimal
digits after a percent sign.
-/

namespace DatasetSchema.Document

/-- Whether a character may stand in the name of an anchor or in a tag handle. -/
def isWordChar (c : Char) : Bool :=
  c.isAlphanum || c == '_' || c == '-'

/-- Whether a character may follow the name of an anchor. -/
def endsAnchor (c : Char) : Bool :=
  isWordOver c || "?:,]\x7d%@`".toList.contains c

/-- Reads the name of an anchor or an alias. -/
def anchorName? (gs : List Glyph) : Option (String × List Glyph) :=
  let (name, rest) := spanChars isWordChar gs
  if name.isEmpty || !endsAnchor (peek rest) then none else some (String.ofList name, rest)

/-- Whether a character may stand in a tag; a tag written in full has also commas and brackets. -/
def isTagChar (full : Bool) (c : Char) : Bool :=
  isWordChar c || ";/?:@&=+$.%!~*'()".toList.contains c || (full && ",[]".toList.contains c)

/-- How many bytes follow the first byte of a character, and what the first one contributes. -/
def leadByte? (byte : Nat) : Option (Nat × Nat) :=
  if byte < 0x80 then some (0, byte)
  else if byte < 0xc0 then none
  else if byte < 0xe0 then some (1, byte - 0xc0)
  else if byte < 0xf0 then some (2, byte - 0xe0)
  else if byte < 0xf8 then some (3, byte - 0xf0)
  else none

/-- The character with a number; a number that no character has counts as unreadable. -/
def charOrUnreadable (n : Nat) : Char :=
  (charOfNumber? n).getD '\ufffd'

/-- Resolves the escapes of a tag. If a character is incomplete, `pending` tells how many of its
bytes are to come and the number so far. -/
def resolveEscapes? (pending : Option (Nat × Nat)) : List Char → Option (List Char)
  | [] => if pending.isNone then some [] else none
  | '%' :: a :: b :: rest => do
    let byte ← Number.natural? 16 [a, b]
    let (left, value) ←
      match pending with
      | none => leadByte? byte
      | some (left, value) =>
        if 0x80 ≤ byte && byte < 0xc0 then some (left - 1, 64 * value + (byte - 0x80)) else none
    if left == 0 then
      let others ← resolveEscapes? none rest
      return charOrUnreadable value :: others
    else resolveEscapes? (some (left, value)) rest
  | c :: rest =>
    if pending.isSome || c == '%' then none else (resolveEscapes? none rest).map (c :: ·)

/-- Reads the characters of a tag. -/
def tagText? (full : Bool) (gs : List Glyph) : Option (String × List Glyph) := do
  let (raw, rest) := spanChars (isTagChar full) gs
  let text ← resolveEscapes? none raw
  return (String.ofList text, rest)

/-- Reads the tag handle after its `!`: a word, and whether another `!` closes it. -/
def tagHandle (gs : List Glyph) : String × Bool × List Glyph :=
  let (word, rest) := spanChars isWordChar gs
  if peek rest == '!' then (String.ofList word, true, rest.tail)
  else (String.ofList word, false, rest)

/-- Reads a tag after its `!` as a handle and a suffix. A tag in full has an empty handle, and so
has the tag that is only a `!`. -/
def tag? (gs : List Glyph) : Option (String × String × List Glyph) :=
  if peek gs == '<' then do
    let (suffix, rest) ← tagText? true gs.tail
    if suffix.isEmpty || peek rest != '>' then none else some ("", suffix, rest.tail)
  else
    let (word, closed, rest) := tagHandle gs
    -- Without a second mark the word is no handle but the beginning of the suffix.
    if closed then do
      let (suffix, rest) ← tagText? false rest
      if suffix.isEmpty then none else some ("!" ++ word ++ "!", suffix, rest)
    else do
      let (more, rest) ← tagText? false rest
      let suffix := word ++ more
      if suffix.isEmpty then some ("", "!", rest) else some ("!", suffix, rest)

/-- Whether a character may follow a tag. -/
def endsTag (inFlow : Bool) (c : Char) : Bool :=
  isWordOver c || (inFlow && c == ',')

end DatasetSchema.Document
