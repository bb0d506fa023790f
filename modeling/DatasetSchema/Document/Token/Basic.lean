import DatasetSchema.Document.Glyph

/-!
# Tokens

The tokens of a document are its scalars, the marks that structure it, and the brackets of its
blocks. Blocks have no written brackets: a block opens where a line is indented more than the block
around it, and closes where a line is indented less.
-/

namespace DatasetSchema.Document

/-- What a token stands for. -/
inductive TokenKind where
  | version (major minor : Nat)
  /-- An abbreviation in tags. -/
  | tagHandle (handle expansion : String)
  | documentStart
  | documentEnd
  | openBlockSequence
  | openBlockMapping
  /-- The innermost block closes. -/
  | closeBlock
  | openSequence
  | closeSequence
  | openMapping
  | closeMapping
  | item
  | comma
  | key
  | value
  /-- A node is used again. -/
  | alias (name : String)
  /-- The next node gets a name. -/
  | anchor (name : String)
  /-- The next node has a tag. -/
  | tag (handle suffix : String)
  /-- A scalar; a plain one is written without quotes and is no block. -/
  | scalar (text : String) (plain : Bool)
  /-- The text is over. -/
  | finish
  deriving DecidableEq, Repr

/-- A token and where it stands. -/
structure Token where
  /-- What it says. -/
  kind : TokenKind
  /-- Where it begins. -/
  start : Position
  /-- Where the reading goes on after it. -/
  stop : Position
  deriving DecidableEq, Repr

end DatasetSchema.Document
