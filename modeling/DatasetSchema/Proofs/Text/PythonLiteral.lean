import DatasetSchema.Number.Digits

/-!
# Text literals of Python

How Python 3 reads a literal between double quotes. The first quote without a backslash before it
closes the literal, and a backslash begins an escape sequence. A line ends at LF, CR or CRLF, and a
literal is closed in the line in which it is opened, unless a backslash stands before the end of the
line. A source has no NUL in it.

The value of a literal is a list of code points, for an escape sequence may stand for a surrogate.

## Main definitions

* `Python.escape?`: the escape sequences;
* `Python.readLiteral`: the value of the literal at the beginning of a text, and what follows it.
-/

namespace DatasetSchema.Python

/-- The code points with a letter or a sign of their own after the backslash. -/
def namedEscape? : Char → Option Nat
  | '\\' => some '\\'.toNat
  | '\'' => some '\''.toNat
  | '"' => some '"'.toNat
  | 'a' => some 7
  | 'b' => some 8
  | 't' => some 9
  | 'n' => some 10
  | 'v' => some 11
  | 'f' => some 12
  | 'r' => some 13
  | _ => none

/-- A code point that is written with so many hexadecimal digits. -/
def hexCode? (count : Nat) (cs : List Char) : Option Nat :=
  if cs.length < count then none
  else (Number.natural? 16 (cs.take count)).filter (· < 0x110000)

/-- The octal digits at the beginning of a text, three at most. -/
def octalDigits (cs : List Char) : List Char :=
  (cs.take 3).takeWhile fun c => (Number.digitValue? 8 c).isSome

variable (characterNames : List Char → Option Nat)

/-- A name between braces, with the number of characters of both. -/
def nameEscape? : List Char → Option (List Nat × Nat)
  | '{' :: cs =>
    let name := cs.takeWhile (· ≠ '}')
    if name.length = cs.length then none
    else (characterNames name).map fun code => ([code], name.length + 2)
  | _ => none

/-- What an escape sequence stands for, given the characters after the backslash, and how
many of them belong to it. The end of a line is passed over. A backslash before any other
character stands for itself. -/
def escape? : List Char → Option (List Nat × Nat)
  | [] => none
  | '\x00' :: _ => none
  | '\r' :: '\n' :: _ => some ([], 2)
  | '\r' :: _ => some ([], 1)
  | '\n' :: _ => some ([], 1)
  | 'x' :: cs => (hexCode? 2 cs).map fun code => ([code], 3)
  | 'u' :: cs => (hexCode? 4 cs).map fun code => ([code], 5)
  | 'U' :: cs => (hexCode? 8 cs).map fun code => ([code], 9)
  | 'N' :: cs => (nameEscape? characterNames cs).map fun (codes, taken) => (codes, taken + 1)
  | c :: cs =>
    match Number.natural? 8 (octalDigits (c :: cs)) with
    | some code => some ([code], (octalDigits (c :: cs)).length)
    | none => some (((namedEscape? c).map ([·])).getD ['\\'.toNat, c.toNat], 1)

/-- The value up to the closing quote, and what follows the quote. -/
def readQuoted : List Char → Option (List Nat × List Char)
  | [] => none
  | c :: cs =>
    if c = '"' then some ([], cs)
    else if c = '\n' ∨ c = '\r' ∨ c = '\x00' then none
    else if c = '\\' then
      match escape? characterNames cs with
      | none => none
      | some (codes, taken) =>
        (readQuoted (cs.drop taken)).map fun (value, rest) => (codes ++ value, rest)
    else (readQuoted cs).map fun (value, rest) => (c.toNat :: value, rest)
termination_by cs => cs.length
decreasing_by
  · rw [List.length_drop, List.length_cons]
    omega
  · rw [List.length_cons]
    omega

/-- The value of the literal that a text begins with, and what follows the literal. Three quotes
open a literal of another form, which is not read. -/
def readLiteral : List Char → Option (List Nat × List Char)
  | '"' :: '"' :: '"' :: _ => none
  | '"' :: cs => readQuoted characterNames cs
  | _ => none

section Equations

variable {characterNames}
variable {c : Char} {cs : List Char}

theorem readQuoted_quote : readQuoted characterNames ('"' :: cs) = some ([], cs) := by
  rw [readQuoted, if_pos rfl]

theorem readQuoted_lineEnd (h : c = '\n' ∨ c = '\r' ∨ c = '\x00') :
    readQuoted characterNames (c :: cs) = none := by
  have hquote : c ≠ '"' := by
    rcases h with rfl | rfl | rfl <;> decide
  rw [readQuoted, if_neg hquote, if_pos h]

theorem readQuoted_escape {codes : List Nat} {taken : Nat}
    (h : escape? characterNames cs = some (codes, taken)) :
    readQuoted characterNames ('\\' :: cs) =
      (readQuoted characterNames (cs.drop taken)).map fun (value, rest) =>
        (codes ++ value, rest) := by
  rw [readQuoted, if_neg (by decide), if_neg (by decide), if_pos rfl, h]

theorem readQuoted_other (hquote : c ≠ '"') (hend : ¬ (c = '\n' ∨ c = '\r' ∨ c = '\x00'))
    (hbackslash : c ≠ '\\') :
    readQuoted characterNames (c :: cs) =
      (readQuoted characterNames cs).map fun (value, rest) => (c.toNat :: value, rest) := by
  rw [readQuoted, if_neg hquote, if_neg hend, if_neg hbackslash]

theorem readLiteral_quote (h : ∀ rest, cs ≠ '"' :: '"' :: rest) :
    readLiteral characterNames ('"' :: cs) = readQuoted characterNames cs := by
  rw [readLiteral]
  exact h

end Equations

end DatasetSchema.Python
