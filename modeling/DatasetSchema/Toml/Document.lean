import DatasetSchema.Toml.Scalar
import DatasetSchema.Toml.Table
import DatasetSchema.Toml.Text

/-!
# TOML documents

A document consists of lines: keys with their values, headers of tables, headers of items of
an array of tables, and comments. Arrays and tables that are written as values may go over
lines and end with a comma.
-/

namespace DatasetSchema.Toml

/-- Whether a character may stand in a key without quotes. -/
def isKeyChar (c : Char) : Bool :=
  c.isAlphanum || c == '_' || c == '-'

/-- Reads a key that is not dotted. -/
def simpleKey? (cs : List Char) : Option (String × List Char) :=
  match cs with
  | '"' :: rest => basicText? (rest.length + 1) [] rest
  | '\'' :: rest => literalText? [] rest
  | cs =>
    let key := cs.takeWhile isKeyChar
    if key.isEmpty then none else some (String.ofList key, cs.dropWhile isKeyChar)

/-- Reads a key: the path before its last name, and the last name. -/
def key? : (steps : Nat) → List Char → Option (List String × String × List Char)
  | 0, _ => none
  | steps + 1, cs => do
    let (first, rest) ← simpleKey? (skipBlanks cs)
    match skipBlanks rest with
    | '.' :: rest =>
      let (path, last, rest) ← key? steps rest
      return (first :: path, last, rest)
    | rest => return ([], first, rest)

/-- What follows the characters of a comment, if they are allowed. -/
def afterComment? : List Char → Option (List Char)
  | [] => some []
  | c :: cs =>
    if c == '\n' || (c == '\r' && cs.head? == some '\n') then some (c :: cs)
    else if isAllowed c then afterComment? cs
    else none

/-- What follows blanks and a comment. -/
def skipComment? (cs : List Char) : Option (List Char) :=
  match skipBlanks cs with
  | '#' :: rest => afterComment? rest
  | rest => some rest

/-- What follows white space, comments and line ends. -/
def skipGap? : (steps : Nat) → List Char → Option (List Char)
  | 0, _ => none
  | steps + 1, cs => do
    let rest ← skipComment? cs
    match lineEnd? rest with
    | some rest => skipGap? steps rest
    | none => return rest

mutual

/-- Reads a value. -/
def value? : (steps : Nat) → List Char → Option (Value × List Char)
  | 0, _ => none
  | steps + 1, cs =>
    match cs with
    | '[' :: rest => do
      let (items, rest) ← items? steps rest
      return (.array items, rest)
    | '\x7b' :: rest => do
      let (entries, rest) ← pairs? steps [] rest
      return (.table (finishEntries entries), rest)
    | '"' :: _ => do
      let (text, rest) ← text? cs
      return (.text text, rest)
    | '\'' :: _ => do
      let (text, rest) ← text? cs
      return (.text text, rest)
    | cs => readScalar? cs

/-- Reads the items of an array up to its bracket. -/
def items? : (steps : Nat) → List Char → Option (List Value × List Char)
  | 0, _ => none
  | steps + 1, cs => do
    match ← skipGap? (cs.length + 1) cs with
    | ']' :: rest => return ([], rest)
    | rest =>
      let (item, rest) ← value? steps rest
      match ← skipGap? (rest.length + 1) rest with
      | ',' :: rest =>
        let (items, rest) ← items? steps rest
        return (item :: items, rest)
      | ']' :: rest => return ([item], rest)
      | _ => none

/-- Reads the keys and values of a table up to its brace. -/
def pairs? : (steps : Nat) → Entries → List Char → Option (Entries × List Char)
  | 0, _, _ => none
  | steps + 1, entries, cs => do
    match ← skipGap? (cs.length + 1) cs with
    | '\x7d' :: rest => return (entries, rest)
    | rest =>
      let (path, last, rest) ← key? (rest.length + 1) rest
      let rest ← after? '=' (skipBlanks rest)
      let (value, rest) ← value? steps (skipBlanks rest)
      let entries ← entries.addPair? [] path last value
      match ← skipGap? (rest.length + 1) rest with
      | ',' :: rest => pairs? steps entries rest
      | '\x7d' :: rest => return (entries, rest)
      | _ => none

end

/-- A document that has been read in part. -/
structure Progress where
  /-- What the lines so far say. -/
  entries : Entries
  /-- The header that the next keys stand under. -/
  header : List String
  deriving Repr

/-- Reads a line up to its end. -/
def line? (p : Progress) (cs : List Char) : Option (Progress × List Char) :=
  match skipBlanks cs with
  | [] => some (p, [])
  | '#' :: rest => some (p, '#' :: rest)
  -- A header in double brackets adds a table to a list; in single ones it opens a table.
  | '[' :: '[' :: rest => do
    let (path, last, rest) ← key? (rest.length + 1) rest
    let rest ← (after? ']' (skipBlanks rest)).bind (after? ']')
    let (_, entries) ← Entries.change? false (Entries.addTable? last) path .header p.entries
    return (⟨entries, path ++ [last]⟩, rest)
  | '[' :: rest => do
    let (path, last, rest) ← key? (rest.length + 1) rest
    let rest ← after? ']' (skipBlanks rest)
    let (_, entries) ← Entries.change? false (Entries.openTable? last) path .header p.entries
    return (⟨entries, path ++ [last]⟩, rest)
  | rest =>
    if (lineEnd? rest).isSome then some (p, rest)
    else do
      let (path, last, rest) ← key? (rest.length + 1) rest
      let rest ← after? '=' (skipBlanks rest)
      let (value, rest) ← value? (rest.length + 1) (skipBlanks rest)
      let entries ← p.entries.addPair? p.header path last value
      return (⟨entries, p.header⟩, rest)

/-- Reads lines up to the end of the document. -/
def lines? : (steps : Nat) → Progress → List Char → Option Entries
  | 0, _, _ => none
  | steps + 1, p, cs => do
    let (p, rest) ← line? p cs
    let rest ← skipComment? rest
    match rest with
    | [] => return p.entries
    | rest => lines? steps p (← lineEnd? rest)

/-- The keys and values of a document. A byte order mark at its front does not count. -/
def ofText? (text : String) : Option (List (String × Value)) :=
  let cs :=
    match text.toList with
    | '\ufeff' :: cs => cs
    | cs => cs
  (lines? (cs.length + 1) ⟨[], []⟩ cs).map finishEntries

end DatasetSchema.Toml
