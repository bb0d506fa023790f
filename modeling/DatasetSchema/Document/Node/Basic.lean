import DatasetSchema.Document.Glyph

/-!
# Nodes

A document is a tree of nodes: scalars, sequences and mappings, and aliases that stand for a node
that has an anchor. Where the reading of the text ended at a fault the tree is cut: the cut is then
the last item of every sequence and mapping around it.
-/

namespace DatasetSchema.Document

/-- Why a tree ends early. -/
inductive Cut where
  | malformed
  /-- An alias refers to no anchor before it. -/
  | unknownAnchor (position : Position)
  deriving DecidableEq, Repr

/-- What stands before the content of a node. -/
structure Properties where
  /-- Where the node begins. -/
  position : Position
  /-- The tag in full. -/
  tag : Option String
  /-- The number of its anchor. -/
  anchor : Option Nat
  deriving DecidableEq, Repr

/-- A node of a document. -/
inductive Node where
  /-- A scalar; a plain one is written without quotes and is no block. -/
  | scalar (properties : Properties) (text : String) (plain : Bool)
  | sequence (properties : Properties) (items : List Node)
  /-- A mapping, with its keys and values in the order of the text. -/
  | mapping (properties : Properties) (entries : List (Node × Node))
  | alias (position : Position) (target : Nat)
  /-- The place where the tree ends early. -/
  | cut (reason : Cut)
  deriving Repr

/-- What follows the first document of a text. -/
inductive Ending where
  /-- Nothing. -/
  | alone
  | malformed
  /-- Something that cannot belong to it. -/
  | followed
  deriving DecidableEq, Repr

/-- The first document of a text. -/
structure Tree where
  /-- The outermost node; a text without any has none. -/
  root : Option Node
  /-- What follows the document. -/
  ending : Ending
  deriving Repr

namespace Node

mutual

/-- The nodes with an anchor, with the number of it, in the order of the text. -/
def anchored : Node → List (Nat × Node)
  | .scalar p text plain => (p.anchor.map fun n => (n, .scalar p text plain)).toList
  | .sequence p items =>
    (p.anchor.map fun n => (n, .sequence p items)).toList ++ anchoredItems items
  | .mapping p entries =>
    (p.anchor.map fun n => (n, .mapping p entries)).toList ++ anchoredEntries entries
  | .alias _ _ => []
  | .cut _ => []

/-- The nodes with an anchor in the items of a sequence. -/
def anchoredItems : List Node → List (Nat × Node)
  | [] => []
  | item :: items => item.anchored ++ anchoredItems items

/-- The nodes with an anchor in the entries of a mapping. -/
def anchoredEntries : List (Node × Node) → List (Nat × Node)
  | [] => []
  | (key, value) :: entries => key.anchored ++ value.anchored ++ anchoredEntries entries

end

mutual

/-- The first cut in a node. -/
def cut? : Node → Option Cut
  | .scalar _ _ _ => none
  | .sequence _ items => cutInItems? items
  | .mapping _ entries => cutInEntries? entries
  | .alias _ _ => none
  | .cut reason => some reason

/-- The first cut in the items of a sequence. -/
def cutInItems? : List Node → Option Cut
  | [] => none
  | item :: items => item.cut? <|> cutInItems? items

/-- The first cut in the entries of a mapping. -/
def cutInEntries? : List (Node × Node) → Option Cut
  | [] => none
  | (key, value) :: entries => key.cut? <|> value.cut? <|> cutInEntries? entries

end

mutual

/-- How many beginnings and ends of nodes the tree has; a scalar or an alias counts once. -/
def eventCount : Node → Nat
  | .scalar _ _ _ => 1
  | .sequence p items =>
    1 + eventCountOfItems items + if (cut? (.sequence p items)).isSome then 0 else 1
  | .mapping p entries =>
    1 + eventCountOfEntries entries + if (cut? (.mapping p entries)).isSome then 0 else 1
  | .alias _ _ => 1
  | .cut _ => 0

/-- The sum over the items of a sequence. -/
def eventCountOfItems : List Node → Nat
  | [] => 0
  | item :: items => item.eventCount + eventCountOfItems items

/-- The sum over the entries of a mapping. -/
def eventCountOfEntries : List (Node × Node) → Nat
  | [] => 0
  | (key, value) :: entries => key.eventCount + value.eventCount + eventCountOfEntries entries

end

end Node

end DatasetSchema.Document
