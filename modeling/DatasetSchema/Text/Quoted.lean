import DatasetSchema.Text.Extending
import DatasetSchema.Text.Printable

/-!
# Quoted texts

A text shown inside a message stands between double quotes. Quotes, backslashes and line ends are
written with a backslash; a character that has no shape of its own, or that would join the one
before it, is written by its number.
-/

namespace DatasetSchema.Text

/-- A character by its number, as in `\u{301}`. -/
def numbered (c : Char) : List Char :=
  ['\\', 'u', '\x7b'] ++ Nat.toDigits 16 c.toNat ++ ['\x7d']

/-- How a character is shown between double quotes. -/
def quotedChar (c : Char) : List Char :=
  if c == '\x00' then ['\\', '0']
  else if c == '\t' then ['\\', 't']
  else if c == '\r' then ['\\', 'r']
  else if c == '\n' then ['\\', 'n']
  else if c == '\\' then ['\\', '\\']
  else if c == '"' then ['\\', '"']
  else if isExtending c || !isPrintable c then numbered c
  else [c]

/-- The text between double quotes. -/
def quoted (s : String) : String :=
  "\"" ++ String.ofList (s.toList.flatMap quotedChar) ++ "\""

end DatasetSchema.Text
