import DatasetSchema.Document.Token.Block
import DatasetSchema.Document.Token.Directive
import DatasetSchema.Document.Token.Plain

/-!
# From glyphs to tokens

The lexer reads token after token. Blocks are told by indentation: `margins` holds, innermost first,
the columns at which the content of the open blocks may begin. A node that may turn out to be a key
is kept pending until the colon behind it is met; then the key token, and if need be the opening of
a block, is put in front of it. A pending key is given up when the line ends or 1024 bytes have
passed; one that has to be a key, because nothing else can stand there, must not be given up.

Reading stops at the first fault. `Token.ofText` answers with the tokens that are certain by then:
those before the first pending key. A list of tokens that ends with `finish` is complete.
-/

namespace DatasetSchema.Document

/-- A node that may turn out to be a key. -/
structure PendingKey where
  /-- The number of tokens before the node. -/
  tokensBefore : Nat
  /-- Where the node begins. -/
  position : Position
  /-- Whether nothing but a key can stand there. -/
  required : Bool
  deriving DecidableEq, Repr

/-- Whether a key can no longer begin so far back. -/
def PendingKey.isStale (key : PendingKey) (now : Position) : Bool :=
  key.position.line < now.line || key.position.offset + 1024 < now.offset

/-- The state of the lexer. -/
structure Lexer where
  /-- The glyphs that are still to be read. -/
  rest : List Glyph
  /-- The tokens that have been read, backwards. -/
  tokens : List Token
  /-- The columns at which the content of the open blocks may begin, innermost first. -/
  margins : List Nat
  /-- The node of the innermost bracket that may turn out to be a key. -/
  pending : Option PendingKey
  /-- The same for every bracket around, innermost first; empty outside of brackets. -/
  outerPending : List (Option PendingKey)
  /-- Whether a key may begin at the next token. -/
  keyAllowed : Bool
  deriving Repr

namespace Lexer

/-- The state before anything is read. -/
def start (gs : List Glyph) : Lexer :=
  { rest := gs, tokens := [], margins := [], pending := none, outerPending := [],
    keyAllowed := true }

/-- Whether the next token stands between brackets or braces. -/
def inFlow (s : Lexer) : Bool :=
  !s.outerPending.isEmpty

/-- The column at which the content of the innermost block may begin. -/
def margin (s : Lexer) : Nat :=
  s.margins.headD 0

/-- The state after one more token. -/
def add (s : Lexer) (kind : TokenKind) (start stop : Position) : Lexer :=
  { s with tokens := ⟨kind, start, stop⟩ :: s.tokens }

/-- A pending key, unless it is given up. Fails if it has to be a key. -/
def giveUp? (now : Position) : Option PendingKey → Option (Option PendingKey)
  | none => some none
  | some key =>
    if !key.isStale now then some (some key) else if key.required then none else some none

/-- Gives up all pending keys that lie too far back. -/
def giveUpStale? (s : Lexer) (now : Position) : Option Lexer := do
  let pending ← giveUp? now s.pending
  let outerPending ← s.outerPending.mapM (giveUp? now)
  return { s with pending, outerPending }

/-- Gives up the pending key of the innermost bracket. Fails if it has to be a key. -/
def clearPending? (s : Lexer) : Option Lexer :=
  match s.pending with
  | some key => if key.required then none else some { s with pending := none }
  | none => some s

/-- Makes the next node pending, if a key may begin here. -/
def setPending? (s : Lexer) : Option Lexer :=
  if s.keyAllowed then do
    let s ← s.clearPending?
    let position := here s.rest
    -- Where the entries of a block begin, only a key can follow.
    let required := !s.inFlow && s.margin == position.column + 1
    return { s with pending := some ⟨s.tokens.length, position, required⟩ }
  else some s

/-- Closes the blocks whose content begins behind a column. -/
def closeBlocksTo (limit : Nat) (now : Position) : List Nat → List Token → List Nat × List Token
  | [], tokens => ([], tokens)
  | margin :: margins, tokens =>
    if limit < margin then closeBlocksTo limit now margins (⟨.closeBlock, now, now⟩ :: tokens)
    else (margin :: margins, tokens)

/-- Closes blocks so that content at the column before `limit` belongs to an open one. Between
brackets indentation has no meaning. -/
def closeBlocks (s : Lexer) (limit : Nat) (now : Position) : Lexer :=
  if s.inFlow then s
  else
    let (margins, tokens) := closeBlocksTo limit now s.margins s.tokens
    { s with margins, tokens }

/-- Whether content at a column opens a block. -/
def opensBlock (s : Lexer) (column : Nat) : Bool :=
  !s.inFlow && s.margin ≤ column

/-- Opens a block at a position if its column asks for one. -/
def openBlock (s : Lexer) (kind : TokenKind) (position : Position) : Lexer :=
  if s.opensBlock position.column then
    { s.add kind position position with margins := (position.column + 1) :: s.margins }
  else s

/-- The state after a mark of this many characters. -/
def addMark (s : Lexer) (kind : TokenKind) (length : Nat) : Lexer :=
  let rest := s.rest.drop length
  { s.add kind (here s.rest) (here rest) with rest }

/-- The state after a token that ends before `rest`. -/
def addUpTo (s : Lexer) (kind : TokenKind) (rest : List Glyph) : Lexer :=
  { s.add kind (here s.rest) (here rest) with rest }

/-- Skips white space, comments and a byte order mark. Answers also whether a key may
begin after it: after a line end outside of brackets it may. A tab is white space only
where no key may begin. -/
def skipGap (inFlow : Bool) : (keyAllowed inComment : Bool) → List Glyph → Bool × List Glyph
  | keyAllowed, _, [] => (keyAllowed, [])
  | keyAllowed, inComment, g :: rest =>
    if isLineEnd g.char then skipGap inFlow (keyAllowed || !inFlow) false rest
    else if g.char == endChar then (keyAllowed, g :: rest)
    else if inComment || g.char == '#' then skipGap inFlow keyAllowed true rest
    else if g.char == ' ' || (g.char == '\t' && (inFlow || !keyAllowed)) ||
        (g.char == orderMark && g.position.offset == 0) then
      skipGap inFlow keyAllowed false rest
    else (keyAllowed, g :: rest)

/-- Reads the end of the document: all blocks close. -/
def finish? (s : Lexer) : Option Lexer := do
  let now := (here s.rest).onFreshLine
  let s ← (s.closeBlocks 0 now).clearPending?
  return { s.add .finish now now with keyAllowed := false }

/-- Reads a directive. -/
def readDirective? (s : Lexer) : Option Lexer := do
  let s ← (s.closeBlocks 0 (here s.rest)).clearPending?
  let (kind, rest) ← directive? s.rest.tail
  return { s.addUpTo kind rest with keyAllowed := false }

/-- Reads a mark between documents. -/
def readDocumentMark? (s : Lexer) (kind : TokenKind) : Option Lexer := do
  let s ← (s.closeBlocks 0 (here s.rest)).clearPending?
  return { s.addMark kind 3 with keyAllowed := false }

/-- Reads an opening bracket or brace. -/
def readOpening? (s : Lexer) (kind : TokenKind) : Option Lexer := do
  let s ← s.setPending?
  return { s.addMark kind 1 with
    pending := none, outerPending := s.pending :: s.outerPending, keyAllowed := true }

/-- Reads a closing bracket or brace. -/
def readClosing? (s : Lexer) (kind : TokenKind) : Option Lexer := do
  let s ← s.clearPending?
  return { s.addMark kind 1 with
    pending := s.outerPending.headD none, outerPending := s.outerPending.tail, keyAllowed := false }

/-- Reads a comma between brackets. -/
def readComma? (s : Lexer) : Option Lexer := do
  let s ← s.clearPending?
  return { s.addMark .comma 1 with keyAllowed := true }

/-- Reads the dash before an item. -/
def readItem? (s : Lexer) : Option Lexer :=
  if !s.inFlow && !s.keyAllowed then none
  else do
    let s ← (s.openBlock .openBlockSequence (here s.rest)).clearPending?
    return { s.addMark .item 1 with keyAllowed := true }

/-- Reads the question mark before a key. -/
def readKey? (s : Lexer) : Option Lexer :=
  if !s.inFlow && !s.keyAllowed then none
  else do
    let s ← (s.openBlock .openBlockMapping (here s.rest)).clearPending?
    return { s.addMark .key 1 with keyAllowed := !s.inFlow }

/-- The state with a node that turned out to be a key announced as one. -/
def announceKey (s : Lexer) (key : PendingKey) : Lexer :=
  -- The tokens of the node are the newest ones; the announcement goes in front of them.
  let since := s.tokens.length - key.tokensBefore
  let mark : Token := ⟨.key, key.position, key.position⟩
  let before := { s with tokens := s.tokens.drop since }.openBlock .openBlockMapping key.position
  { before with
    tokens := s.tokens.take since ++ mark :: before.tokens, pending := none, keyAllowed := false }

/-- Reads the colon before a value. -/
def readValue? (s : Lexer) : Option Lexer :=
  match s.pending with
  | some key => some ((s.announceKey key).addMark .value 1)
  | none =>
    if !s.inFlow && !s.keyAllowed then none
    else
      let s := s.openBlock .openBlockMapping (here s.rest)
      some { s.addMark .value 1 with keyAllowed := !s.inFlow }

/-- Reads an anchor or an alias. -/
def readName? (s : Lexer) (kind : String → TokenKind) : Option Lexer := do
  let s ← s.setPending?
  let (name, rest) ← anchorName? s.rest.tail
  return { s.addUpTo (kind name) rest with keyAllowed := false }

/-- Reads a tag. -/
def readTag? (s : Lexer) : Option Lexer := do
  let s ← s.setPending?
  let (handle, suffix, rest) ← tag? s.rest.tail
  if !endsTag s.inFlow (peek rest) then none
  else return { s.addUpTo (.tag handle suffix) rest with keyAllowed := false }

/-- Reads a block scalar. -/
def readBlock? (s : Lexer) (literal : Bool) : Option Lexer := do
  let s ← s.clearPending?
  let (text, rest) ← blockScalar? literal s.margin s.rest.tail
  return { s.addUpTo (.scalar text false) rest with keyAllowed := true }

/-- Reads a quoted scalar. -/
def readQuoted? (s : Lexer) (double : Bool) : Option Lexer := do
  let s ← s.setPending?
  let (text, rest) ←
    if double then doubleQuoted? [] .none .text s.rest.tail else singleQuoted? [] .none s.rest.tail
  return { s.addUpTo (.scalar text false) rest with keyAllowed := false }

/-- Reads a plain scalar. -/
def readPlain? (s : Lexer) : Option Lexer := do
  let s ← s.setPending?
  let scalar ← plainScalar? s.inFlow s.margin [] .none s.rest
  return { s.addUpTo (.scalar scalar.text true) scalar.rest with keyAllowed := scalar.endsLine }

/-- Whether a plain scalar can begin with a character that `next` follows. -/
def startsPlain (inFlow : Bool) (c next : Char) : Bool :=
  if c == '-' then !isBlank next
  else if c == '?' || c == ':' then !inFlow && !isWordOver next
  else !isWordOver c && !",[]\x7b\x7d#&*!|>'\"%@`".toList.contains c

/-- Reads one token at the place where it begins. -/
def readToken? (s : Lexer) : Option Lexer :=
  let c := peek s.rest
  let next := peek s.rest.tail
  let atLineStart := (here s.rest).column == 0
  -- Marks count at the start of a line only; what is no indicator begins a plain scalar.
  if c == endChar then s.finish?
  else if atLineStart && c == '%' then s.readDirective?
  else if atLineStart && isTripled '-' s.rest then s.readDocumentMark? .documentStart
  else if atLineStart && isTripled '.' s.rest then s.readDocumentMark? .documentEnd
  else if c == '[' then s.readOpening? .openSequence
  else if c == '\x7b' then s.readOpening? .openMapping
  else if c == ']' then s.readClosing? .closeSequence
  else if c == '\x7d' then s.readClosing? .closeMapping
  else if c == ',' then s.readComma?
  else if c == '-' && isWordOver next then s.readItem?
  else if c == '?' && (s.inFlow || isWordOver next) then s.readKey?
  else if c == ':' && (s.inFlow || isWordOver next) then s.readValue?
  else if c == '*' then s.readName? .alias
  else if c == '&' then s.readName? .anchor
  else if c == '!' then s.readTag?
  else if c == '|' && !s.inFlow then s.readBlock? true
  else if c == '>' && !s.inFlow then s.readBlock? false
  else if c == '\'' then s.readQuoted? false
  else if c == '"' then s.readQuoted? true
  else if startsPlain s.inFlow c next then s.readPlain?
  else none

/-- Whether the document has been read to its end. -/
def isFinished (s : Lexer) : Bool :=
  match s.tokens with
  | token :: _ => token.kind == .finish
  | [] => false

/-- Where the next token is looked for; the end of a document counts as a line of its own. -/
def now (s : Lexer) : Position :=
  if s.isFinished then (here s.rest).onFreshLine else here s.rest

/-- Reads the next token and what the white space before it and the end of blocks bring. -/
def step? (s : Lexer) : Option Lexer := do
  -- A key that lies too far back is given up before blocks close, and again behind the new token.
  let (keyAllowed, rest) := skipGap s.inFlow s.keyAllowed false s.rest
  let s ← { s with keyAllowed, rest }.giveUpStale? (here rest)
  let s := s.closeBlocks ((here rest).column + 1) (here rest)
  let s ← s.readToken?
  s.giveUpStale? s.now

/-- The tokens that are certain: those before the first pending key. -/
def certain (s : Lexer) : List Token :=
  let pending := (s.pending :: s.outerPending).filterMap id
  let count := (pending.map PendingKey.tokensBefore).foldl min s.tokens.length
  s.tokens.reverse.take count

/-- Reads at most so many tokens. -/
def run : (steps : Nat) → Lexer → List Token
  | 0, s => s.certain
  | steps + 1, s =>
    match s.step? with
    | none => s.certain
    | some s => if s.isFinished then s.tokens.reverse else run steps s

end Lexer

/-- The tokens of a document up to its first fault. Every token but `finish` takes up a
glyph, so there are no more steps than glyphs. A document with a character that is not
allowed has no tokens. -/
def Token.ofText (text : String) : List Token :=
  let cs := text.toList
  if cs.all isAllowed then
    let gs := glyphsFrom .start cs
    Lexer.run gs.length (.start gs)
  else []

end DatasetSchema.Document
