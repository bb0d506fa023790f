import DatasetSchema.Identifier
import DatasetSchema.Span
import DatasetSchema.Text.Bytes
import DatasetSchema.TypeExpr.Nesting

/-!
# Type expressions

A type expression is a name, such as `Int`, or a name with parameters between brackets, such as
`List[etype=Int,ordered=true]`:

    type      := name ( '[' ( parameter ( ',' parameter )* )? ']' )?
    parameter := ( name '=' )? value
    value     := ( quoted run | '[' … ']' | other character )+

Quoted runs and bracketed groups of a value are closed, so commas inside them do not separate
parameters. `TypeExpr.read` splits the text between the brackets at the separating commas and reads
each segment as a parameter. It knows nothing of the types that exist.
-/

namespace DatasetSchema

/-- A parameter of a type expression. -/
structure TypeParameter where
  /-- The name before the `=`, if one is written. -/
  key : Option (Spanned String)
  /-- The text of the value and its place. -/
  value : Spanned String
  /-- The place of the whole. -/
  span : Span
  deriving DecidableEq, Repr

/-- A type expression before it is given a meaning. -/
structure TypeExpr where
  /-- The name of a kind. -/
  name : Spanned String
  /-- The parameters with the span of their brackets, if brackets are written. -/
  parameters : Option (Spanned (List TypeParameter))
  deriving DecidableEq, Repr

namespace TypeExpr

/-- How the text between the brackets comes to its end. -/
inductive Ending where
  /-- The list is closed, and `rest` follows. -/
  | closed (rest : List Char)
  /-- The text ends without a closing bracket. -/
  | unclosed
  /-- The text ends inside a quoted run or a bracketed group. -/
  | unfinished
  deriving DecidableEq, Repr

/-- The text between the brackets, split at the separating commas. -/
structure Segments where
  /-- The text up to the first comma. -/
  first : List Char
  /-- The texts between and after the commas. -/
  others : List (List Char)
  /-- How the text between the brackets ends. -/
  ending : Ending
  deriving DecidableEq, Repr

/-- Splits the text after an opening bracket. The nesting is that of the place inside the
segment. -/
def segments (nesting : Nesting) : List Char → Segments
  | [] => ⟨[], [], if nesting.isOutside then .unclosed else .unfinished⟩
  | c :: cs =>
    if nesting.isOutside && c == ',' then
      let tail := segments .outside cs
      ⟨[], tail.first :: tail.others, tail.ending⟩
    else if nesting.isOutside && c == ']' then ⟨[], [], .closed cs⟩
    else
      let tail := segments (nesting.step c) cs
      ⟨c :: tail.first, tail.others, tail.ending⟩

/-- A part of the text with the span that it covers from `start` on. -/
def piece (start : Nat) (cs : List Char) : Spanned String :=
  ⟨String.ofList cs, Span.ofLength start (Text.byteLength cs)⟩

/-- Reads a segment that begins at `start`. A name directly before a `=` is a key; what is left has
to be a value of at least one character. -/
def parameter? (start : Nat) (segment : List Char) : Option TypeParameter :=
  let name := segment.takeWhile isNameChar
  match name, segment.dropWhile isNameChar with
  | _ :: _, '=' :: value =>
    if value.isEmpty then none
    else
      some
        { key := some (piece start name)
          value := piece (start + Text.byteLength name + 1) value
          span := Span.ofLength start (Text.byteLength segment) }
  | _, _ =>
    if segment.isEmpty then none
    else
      some
        { key := none
          value := piece start segment
          span := Span.ofLength start (Text.byteLength segment) }

/-- The place where a text stops being a type expression. -/
structure Unexpected where
  /-- The number of bytes before the place. -/
  offset : Nat
  /-- The character there, unless the text ends. -/
  found : Option Char
  deriving DecidableEq, Repr

/-- Reads the segments after the first one. The comma before the next segment stands at `comma`; a
segment that is no parameter makes that comma unexpected. -/
def laterParameters (comma : Nat) : List (List Char) → Except Unexpected (List TypeParameter)
  | [] => .ok []
  | segment :: segments =>
    match parameter? (comma + 1) segment with
    | none => .error ⟨comma, some ','⟩
    | some parameter => do
      let rest ← laterParameters (comma + 1 + Text.byteLength segment) segments
      return parameter :: rest

/-- Reads the segments of a parameter list that begins at `start`. The last segment is not read if
the text ends inside it. -/
def readParameters (start : Nat) (split : Segments) (text : List Char) :
    Except Unexpected (List TypeParameter) :=
  match split.others, split.ending with
  -- Inside the only segment the end of the text is the first fault, wherever the segment begins.
  | [], .unfinished => .ok []
  | others, ending =>
    if split.first.isEmpty && others.isEmpty then .ok []
    else
      match parameter? start split.first with
      | none => .error ⟨start, text.head?⟩
      | some first => do
        let read := if ending = .unfinished then others.dropLast else others
        let rest ← laterParameters (start + Text.byteLength split.first) read
        return first :: rest

/-- Reads a type expression that begins at `start` and takes up the whole text. -/
def read (start : Nat) (source : List Char) : Except Unexpected TypeExpr :=
  let name := source.takeWhile isNameChar
  let afterName := start + Text.byteLength name
  let finish := start + Text.byteLength source
  match name, source.dropWhile isNameChar with
  | [], rest => .error ⟨start, rest.head?⟩
  | _, [] => .ok ⟨piece start name, none⟩
  | _, '[' :: text => do
    let split := segments .outside text
    let parameters ← readParameters (afterName + 1) split text
    match split.ending with
    | .closed [] =>
      return ⟨piece start name, some ⟨parameters, Span.clamped afterName finish⟩⟩
    | .closed (c :: cs) => .error ⟨finish - Text.byteLength (c :: cs), some c⟩
    | _ => .error ⟨finish, none⟩
  | _, c :: _ => .error ⟨afterName, some c⟩

end TypeExpr

end DatasetSchema
