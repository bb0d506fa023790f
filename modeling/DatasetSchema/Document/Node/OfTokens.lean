import DatasetSchema.Document.Node.Basic
import DatasetSchema.Document.Token.Lexer

/-!
# From tokens to nodes

Tokens are read by recursive descent. Keys and values that are left out are empty plain scalars.
Where no token is left, or none that fits, the tree is cut, and nothing is read after the cut.

Anchors are numbered. A new anchor gets the number of distinct names so far, so after a name has
been used again a number can be given twice; the later node then has it.
-/

namespace DatasetSchema.Document

/-- The tokens still to be read and the anchors met so far with their numbers. -/
structure Feed where
  /-- The tokens that are still to be read. -/
  tokens : List Token
  /-- The number of each name; no name occurs twice. -/
  anchors : List (String × Nat)
  deriving Repr

namespace Feed

/-- The feed after a cut. -/
def stopped : Feed :=
  ⟨[], []⟩

/-- The feed with other tokens. -/
def goOn (s : Feed) (tokens : List Token) : Feed :=
  { s with tokens }

/-- The feed after an anchor, and the number of the anchor. -/
def addAnchor (s : Feed) : Option String → Option Nat × Feed
  | none => (none, s)
  | some name =>
    let number := s.anchors.length
    (some number, { s with anchors := (name, number) :: s.anchors.filter fun a => a.1 != name })

end Feed

/-- The handles that every document has. -/
def defaultHandles : List (String × String) :=
  [("!", "!"), ("!!", "tag:yaml.org,2002:")]

/-- The tag in full, if its handle is known. -/
def fullTag? (handles : List (String × String)) (handle suffix : String) : Option String :=
  if handle.isEmpty then some suffix else (handles.lookup handle).map (· ++ suffix)

/-- What stands before the content of a node: an anchor and a tag, in any order. -/
structure WrittenProperties where
  /-- The name of the anchor. -/
  anchor : Option String
  /-- The handle and the suffix of the tag. -/
  tag : Option (String × String)
  /-- The tokens of the content, and what follows it. -/
  rest : List Token
  deriving Repr

/-- Reads what stands before the content of a node. -/
def writtenProperties : List Token → WrittenProperties
  | ⟨.anchor a, _, _⟩ :: ⟨.tag handle suffix, _, _⟩ :: rest => ⟨some a, some (handle, suffix), rest⟩
  | ⟨.tag handle suffix, _, _⟩ :: ⟨.anchor a, _, _⟩ :: rest => ⟨some a, some (handle, suffix), rest⟩
  | ⟨.anchor a, _, _⟩ :: rest => ⟨some a, none, rest⟩
  | ⟨.tag handle suffix, _, _⟩ :: rest => ⟨none, some (handle, suffix), rest⟩
  | rest => ⟨none, none, rest⟩

/-- The properties of a node that begins at a position, and the feed after them. Fails if the tag
has an unknown handle. -/
def properties? (handles : List (String × String)) (s : Feed) (position : Position) :
    Option (Properties × Feed) := do
  let written := writtenProperties s.tokens
  let tag ←
    match written.tag with
    | none => some none
    | some (handle, suffix) => (fullTag? handles handle suffix).map some
  let (anchor, s) := (s.goOn written.rest).addAnchor written.anchor
  return (⟨position, tag, anchor⟩, s)

namespace Node

/-- A tree that is cut since the text is not well formed. -/
def malformed : Node × Feed :=
  (.cut .malformed, .stopped)

/-- An empty plain scalar. -/
def empty (position : Position) : Node :=
  .scalar ⟨position, none, none⟩ "" true

/-- A node without content. It is an empty scalar if it has properties. -/
def withoutContent (p : Properties) (s : Feed) : Node × Feed :=
  if p.tag.isSome || p.anchor.isSome then (.scalar p "" true, s) else malformed

/-- A scalar with content. The tag that is only a `!` does not count. -/
def ofScalar (p : Properties) (text : String) (plain : Bool) : Node :=
  .scalar { p with tag := p.tag.filter (· != "!") } text plain

/-- Reads a node unless one of the given tokens comes first; then the node is left out, and it
stands at the position. -/
def orEmpty (read : Feed → Node × Feed) (stops : List TokenKind) (position : Token → Position)
    (s : Feed) : Node × Feed :=
  match s.tokens with
  | [] => malformed
  | t :: _ => if stops.contains t.kind then (empty (position t), s) else read s

/-- A node that is left out before the next token. -/
def leftOut (s : Feed) : Node × Feed :=
  match s.tokens with
  | [] => malformed
  | t :: _ => (empty t.start, s)

/-- Reads the value of a block mapping. -/
def blockValue (read : Feed → Node × Feed) (s : Feed) : Node × Feed :=
  match s.tokens with
  | [] => malformed
  | t :: rest =>
    if t.kind == .value then
      orEmpty read [.key, .value, .closeBlock] (fun _ => t.stop) (s.goOn rest)
    else leftOut s

/-- Reads a value between brackets that `closing` closes. -/
def flowValue (read : Feed → Node × Feed) (closing : TokenKind) (s : Feed) : Node × Feed :=
  match s.tokens with
  | [] => malformed
  | t :: rest =>
    if t.kind == .value then orEmpty read [.comma, closing] Token.start (s.goOn rest)
    else leftOut s

/-- Reads the key of a pair that is an item of a sequence between brackets. Where the key is left
out, the token that stands there is passed over. -/
def pairKey (read : Feed → Node × Feed) (s : Feed) : Node × Feed :=
  match s.tokens with
  | [] => malformed
  | t :: rest =>
    if [.value, .comma, .closeSequence].contains t.kind then (empty t.stop, s.goOn rest) else read s

/-- The tokens after the comma before an item, which the first item does not have. -/
def afterComma? (first : Bool) (tokens : List Token) : Option (List Token) :=
  if first then some tokens
  else
    match tokens with
    | ⟨.comma, _, _⟩ :: rest => some rest
    | _ => none

mutual

/-- Reads a node. A block can stand there if `block`, and also a block sequence that is not
indented if `indentless`. -/
def read (handles : List (String × String)) : (steps : Nat) → (block indentless : Bool) → Feed →
    Node × Feed
  | 0, _, _, _ => malformed
  | steps + 1, block, indentless, s =>
    match s.tokens with
    | [] => malformed
    | ⟨.alias name, start, _⟩ :: rest =>
      match s.anchors.lookup name with
      -- An alias has no properties, and its anchor may belong to a node around it.
      | some number => (.alias start number, s.goOn rest)
      | none => (.cut (.unknownAnchor start), .stopped)
    | first :: _ =>
      match properties? handles s first.start with
      | none => malformed
      | some (p, s) =>
        match s.tokens with
        | [] => malformed
        | t :: rest =>
          match t.kind with
          | .scalar text plain => (ofScalar p text plain, s.goOn rest)
          | .openSequence =>
            let (items, s) := readItems handles steps true (s.goOn rest)
            (.sequence p items, s)
          | .openMapping =>
            let (entries, s) := readEntries handles steps true (s.goOn rest)
            (.mapping p entries, s)
          | .item =>
            if indentless then
              let (items, s) := readIndentlessItems handles steps s
              (.sequence p items, s)
            else withoutContent p s
          | .openBlockSequence =>
            if block then
              let (items, s) := readBlockItems handles steps (s.goOn rest)
              (.sequence p items, s)
            else withoutContent p s
          | .openBlockMapping =>
            if block then
              let (entries, s) := readBlockEntries handles steps (s.goOn rest)
              (.mapping p entries, s)
            else withoutContent p s
          | _ => withoutContent p s

/-- Reads the items of a block sequence. -/
def readBlockItems (handles : List (String × String)) : (steps : Nat) → Feed → List Node × Feed
  | 0, _ => ([malformed.1], .stopped)
  | steps + 1, s =>
    match s.tokens with
    | ⟨.item, _, stop⟩ :: rest =>
      let (item, s) :=
        orEmpty (read handles steps true false) [.item, .closeBlock] (fun _ => stop) (s.goOn rest)
      let (items, s) := readBlockItems handles steps s
      (item :: items, s)
    | ⟨.closeBlock, _, _⟩ :: rest => ([], s.goOn rest)
    | _ => ([malformed.1], .stopped)

/-- Reads the items of a block sequence that is not indented. -/
def readIndentlessItems (handles : List (String × String)) : (steps : Nat) → Feed → List Node × Feed
  | 0, _ => ([malformed.1], .stopped)
  | steps + 1, s =>
    match s.tokens with
    | [] => ([malformed.1], .stopped)
    | ⟨.item, _, stop⟩ :: rest =>
      let (item, s) :=
        orEmpty (read handles steps true false) [.item, .key, .value, .closeBlock] (fun _ => stop)
          (s.goOn rest)
      let (items, s) := readIndentlessItems handles steps s
      (item :: items, s)
    | _ => ([], s)

/-- Reads the entries of a block mapping. -/
def readBlockEntries (handles : List (String × String)) : (steps : Nat) → Feed →
    List (Node × Node) × Feed
  | 0, _ => ([(malformed.1, malformed.1)], .stopped)
  | steps + 1, s =>
    match s.tokens with
    | ⟨.key, _, stop⟩ :: rest =>
      let (key, s) :=
        orEmpty (read handles steps true true) [.key, .value, .closeBlock] (fun _ => stop)
          (s.goOn rest)
      let (value, s) := blockValue (read handles steps true true) s
      let (entries, s) := readBlockEntries handles steps s
      ((key, value) :: entries, s)
    | ⟨.closeBlock, _, _⟩ :: rest => ([], s.goOn rest)
    | _ => ([(malformed.1, malformed.1)], .stopped)

/-- Reads the items of a sequence between brackets. An item that is announced as a key is a
mapping with one entry. -/
def readItems (handles : List (String × String)) : (steps : Nat) → (first : Bool) → Feed →
    List Node × Feed
  | 0, _, _ => ([malformed.1], .stopped)
  | steps + 1, first, s =>
    match s.tokens with
    | ⟨.closeSequence, _, _⟩ :: rest => ([], s.goOn rest)
    | tokens =>
      match afterComma? first tokens with
      | none => ([malformed.1], .stopped)
      | some (⟨.closeSequence, _, _⟩ :: rest) => ([], s.goOn rest)
      | some (⟨.key, start, _⟩ :: rest) =>
        let (key, s) := pairKey (read handles steps false false) (s.goOn rest)
        let (value, s) := flowValue (read handles steps false false) .closeSequence s
        let (items, s) := readItems handles steps false s
        (.mapping ⟨start, none, none⟩ [(key, value)] :: items, s)
      | some tokens =>
        let (item, s) := read handles steps false false (s.goOn tokens)
        let (items, s) := readItems handles steps false s
        (item :: items, s)

/-- Reads the entries of a mapping between braces. -/
def readEntries (handles : List (String × String)) : (steps : Nat) → (first : Bool) → Feed →
    List (Node × Node) × Feed
  | 0, _, _ => ([(malformed.1, malformed.1)], .stopped)
  | steps + 1, first, s =>
    match s.tokens with
    | ⟨.closeMapping, _, _⟩ :: rest => ([], s.goOn rest)
    | tokens =>
      match afterComma? first tokens with
      | none => ([(malformed.1, malformed.1)], .stopped)
      | some (⟨.closeMapping, _, _⟩ :: rest) => ([], s.goOn rest)
      | some (⟨.key, _, _⟩ :: rest) =>
        let (key, s) :=
          orEmpty (read handles steps false false) [.value, .comma, .closeMapping] Token.start
            (s.goOn rest)
        let (value, s) := flowValue (read handles steps false false) .closeMapping s
        let (entries, s) := readEntries handles steps false s
        ((key, value) :: entries, s)
      | some tokens =>
        let (key, s) := read handles steps false false (s.goOn tokens)
        let (value, s) := leftOut s
        let (entries, s) := readEntries handles steps false s
        ((key, value) :: entries, s)

end

end Node

namespace Tree

/-- A document that is cut before its first node. -/
def malformed : Tree :=
  ⟨some (.cut .malformed), .malformed⟩

/-- Reads the directives before a document. Fails if one of them is given twice, or if the
version is not known. -/
def handles? (versionGiven : Bool) (handles : List (String × String)) :
    List Token → Option (List (String × String) × List Token)
  | ⟨.version major minor, _, _⟩ :: rest =>
    if versionGiven || major != 1 || (minor != 1 && minor != 2) then none
    else handles? true handles rest
  | ⟨.tagHandle handle expansion, _, _⟩ :: rest =>
    if (handles.lookup handle).isSome then none
    else handles? versionGiven ((handle, expansion) :: handles) rest
  | rest => some (handles, rest)

/-- What follows a document whose tokens have been read up to here. Marks after it belong to it. -/
def endingOf (tokens : List Token) : Ending :=
  if tokens.isEmpty then .malformed
  else
    match tokens.dropWhile fun t => t.kind == .documentEnd with
    | ⟨.finish, _, _⟩ :: _ => .alone
    | _ => .followed

/-- Reads the outermost node. -/
def ofRoot (handles : List (String × String)) (tokens : List Token) : Tree :=
  let (root, s) :=
    Node.read (handles ++ defaultHandles) (2 * tokens.length + 2) true false ⟨tokens, []⟩
  ⟨some root, endingOf s.tokens⟩

/-- Whether a token stands before or after documents. -/
def isOutside : TokenKind → Bool
  | .version .. | .tagHandle .. | .documentStart | .documentEnd | .finish => true
  | _ => false

/-- Reads the first document. A document that a mark begins may be empty. -/
def ofTokens (tokens : List Token) : Tree :=
  match tokens with
  | [] => malformed
  | ⟨.finish, _, _⟩ :: _ => ⟨none, .alone⟩
  | tokens =>
    match handles? false [] tokens with
    | none => malformed
    | some (handles, ⟨.documentStart, _, _⟩ :: rest) =>
      match rest with
      | [] => malformed
      | t :: _ =>
        if isOutside t.kind then ⟨some (.empty t.start), endingOf rest⟩ else ofRoot handles rest
    | some (_, rest) => if rest.length = tokens.length then ofRoot [] tokens else malformed

/-- The first document of a text. -/
def ofText (text : String) : Tree :=
  ofTokens (Token.ofText text)

end Tree

end DatasetSchema.Document
