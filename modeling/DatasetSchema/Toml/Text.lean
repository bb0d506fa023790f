import DatasetSchema.Number.Digits

/-!
# TOML texts

A basic text stands between double quotes and has escapes, a literal text stands between single
quotes and has none. Between three quotes a text may go over lines; a line end right behind the
opening quotes is dropped, and one or two quotes right before the closing ones belong to the text.
-/

namespace DatasetSchema.Toml

/-- Whether a character may stand in comments and texts. -/
def isAllowed (c : Char) : Bool :=
  c == '\t' || (' ' ≤ c && c != '\x7f')

/-- Whether a character separates within a line. -/
def isBlank (c : Char) : Bool :=
  c == ' ' || c == '\t'

/-- What follows the blanks. -/
def skipBlanks (cs : List Char) : List Char :=
  cs.dropWhile isBlank

/-- What follows a line end, if one comes first. -/
def lineEnd? : List Char → Option (List Char)
  | '\n' :: cs => some cs
  | '\r' :: '\n' :: cs => some cs
  | _ => none

/-- What follows the white space of this line and the next ones. -/
def skipLines : List Char → List Char
  | '\r' :: '\n' :: cs => skipLines cs
  | c :: cs => if isBlank c || c == '\n' then skipLines cs else c :: cs
  | [] => []

/-- The character that is escaped by its number in some hexadecimal digits. -/
def numberedChar? (digits : List Char) : Option Char :=
  match Number.natural? 16 digits with
  | some n => if n.isValidChar then some (Char.ofNat n) else none
  | none => none

/-- Reads an escape after its backslash. -/
def escape? : List Char → Option (Char × List Char)
  | 'b' :: cs => some ('\x08', cs)
  | 't' :: cs => some ('\t', cs)
  | 'n' :: cs => some ('\n', cs)
  | 'f' :: cs => some ('\x0c', cs)
  | 'r' :: cs => some ('\r', cs)
  | 'e' :: cs => some ('\x1b', cs)
  | '"' :: cs => some ('"', cs)
  | '\\' :: cs => some ('\\', cs)
  | 'x' :: cs => if cs.length < 2 then none else (numberedChar? (cs.take 2)).map (·, cs.drop 2)
  | 'u' :: cs => if cs.length < 4 then none else (numberedChar? (cs.take 4)).map (·, cs.drop 4)
  | 'U' :: cs => if cs.length < 8 then none else (numberedChar? (cs.take 8)).map (·, cs.drop 8)
  | _ => none

/-- Reads on in a basic text of one line; `text` is what has been read, backwards. -/
def basicText? : (steps : Nat) → (text : List Char) → List Char → Option (String × List Char)
  | 0, _, _ => none
  | _ + 1, _, [] => none
  | steps + 1, text, c :: cs =>
    if c == '"' then some (String.ofList text.reverse, cs)
    else if c == '\\' then do
      let (c, cs) ← escape? cs
      basicText? steps (c :: text) cs
    else if isAllowed c then basicText? steps (c :: text) cs
    else none

/-- Reads on in a literal text of one line; `text` is what has been read, backwards. -/
def literalText? (text : List Char) : List Char → Option (String × List Char)
  | [] => none
  | c :: cs =>
    if c == '\'' then some (String.ofList text.reverse, cs)
    else if isAllowed c then literalText? (c :: text) cs
    else none

/-- Closes a text over several lines before some quotes, if there are three of them at least. -/
def closing? (quote : Char) (text cs : List Char) : Option (String × List Char) :=
  -- Of up to five quotes the last three close the text, and the others belong to it.
  let quotes := ((cs.takeWhile (· == quote)).take 5).length
  if quotes < 3 then none
  else
    some (String.ofList ((List.replicate (quotes - 3) quote ++ text).reverse), cs.drop quotes)

/-- Reads on in a basic text over several lines; `text` is what has been read, backwards. A
backslash at the end of a line drops the white space up to the next character. -/
def basicLines? : (steps : Nat) → (text : List Char) → List Char → Option (String × List Char)
  | 0, _, _ => none
  | _ + 1, _, [] => none
  | steps + 1, text, c :: cs =>
    match closing? '"' text (c :: cs) with
    | some result => some result
    | none =>
      if c == '\\' then
        if (lineEnd? (skipBlanks cs)).isSome then basicLines? steps text (skipLines cs)
        else do
          let (c, cs) ← escape? cs
          basicLines? steps (c :: text) cs
      else
        match lineEnd? (c :: cs) with
        | some cs => basicLines? steps ('\n' :: text) cs
        | none => if isAllowed c then basicLines? steps (c :: text) cs else none

/-- Reads on in a literal text over several lines; `text` is what has been read, backwards. -/
def literalLines? : (steps : Nat) → (text : List Char) → List Char → Option (String × List Char)
  | 0, _, _ => none
  | _ + 1, _, [] => none
  | steps + 1, text, c :: cs =>
    match closing? '\'' text (c :: cs) with
    | some result => some result
    | none =>
      match lineEnd? (c :: cs) with
      | some cs => literalLines? steps ('\n' :: text) cs
      | none => if isAllowed c then literalLines? steps (c :: text) cs else none

/-- The text without a line end at its front. -/
def dropLineEnd (cs : List Char) : List Char :=
  (lineEnd? cs).getD cs

/-- Reads a text with the quotes around it. -/
def text? : List Char → Option (String × List Char)
  | '"' :: '"' :: '"' :: cs => basicLines? (cs.length + 1) [] (dropLineEnd cs)
  | '\'' :: '\'' :: '\'' :: cs => literalLines? (cs.length + 1) [] (dropLineEnd cs)
  | '"' :: cs => basicText? (cs.length + 1) [] cs
  | '\'' :: cs => literalText? [] cs
  | _ => none

end DatasetSchema.Toml
