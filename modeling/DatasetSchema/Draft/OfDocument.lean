import DatasetSchema.Document.Fault
import DatasetSchema.Document.Node.OfTokens
import DatasetSchema.Document.Scalar
import DatasetSchema.Draft.Basic

/-!
# From documents to drafts

A draft is read from the tree of a document in the order of the text, and the first fault ends the
reading. Sections that are not known are passed over, but a cut inside them is met. A node without
content counts as an empty mapping or sequence where one is expected; a section is absent if nothing
is written there, or a plain null.

Aliases are followed to the nodes with their anchors. To bound the work at most `maxDepth` sequences
and mappings may lie in each other, and aliases may be followed at most a hundred times for every
beginning or end of a node.
-/

namespace DatasetSchema.Draft

open Document hiding Fault

/-- How many sequences and mappings may lie in each other. -/
def maxDepth : Nat := 128

/-- What following aliases depends on. -/
structure Anchors where
  /-- The nodes with an anchor by its number, the last ones first. -/
  nodes : List (Nat × Node)
  /-- How often aliases may be followed. -/
  limit : Nat
  deriving Repr

/-- The anchors of a tree. -/
def Anchors.ofRoot (root : Node) : Anchors :=
  ⟨root.anchored.reverse, 100 * root.eventCount⟩

/-- A reading counts how often aliases have been followed. -/
abbrev Reading (α : Type) := StateT Nat (Except Document.Fault) α

namespace Reading

variable {α : Type}

/-- A fault ends the reading. -/
def fail (fault : Document.Fault) : Reading α :=
  fun _ => .error fault

/-- A mismatch whose place is told by what is around it. -/
def mismatch (cause : Mismatch) : Reading α :=
  fail (.mismatch cause none)

/-- The reading with the given place for a mismatch that has none. -/
def located (place : Place) (x : Reading α) : Reading α :=
  fun count =>
    match x count with
    | .error (.mismatch cause none) => .error (.mismatch cause (some place))
    | result => result

end Reading

/-- The fault of a cut. -/
def faultOfCut : Cut → Document.Fault
  | .malformed => .malformed
  | .unknownAnchor position => .unknownAnchor position

/-- Where a node begins; only nodes that are no aliases and no cuts are asked. -/
def positionOf : Node → Position
  | .scalar p _ _ | .sequence p _ | .mapping p _ => p.position
  | .alias position _ => position
  | .cut _ => .start

/-- The node itself, or the one that it is an alias of. A cut is a fault. -/
def follow (anchors : Anchors) : Node → Reading Node
  | .alias _ target => fun count =>
    if anchors.limit ≤ count then .error .tooManyAliases
    else
      match anchors.nodes.lookup target with
      | some node => .ok (node, count + 1)
      | none => .error .malformed
  | .cut reason => .fail (faultOfCut reason)
  | node => pure node

/-- Passes over a node. -/
def passOver (node : Node) : Reading Unit :=
  match node.cut? with
  | some reason => .fail (faultOfCut reason)
  | none => pure ()

/-- The step to the value of a key. -/
def stepOf : Node → Step
  | .scalar _ text _ => .key text
  | _ => .otherKey

/-- Whether a tag in full is a local one. -/
def isLocalTag (tag : String) : Bool :=
  tag.toList.head? == some '!'

/-- The value that a text stands for by itself. -/
def plainValue (text : String) : Value :=
  match Scalar.ofText text with
  | .null => .null
  | .boolean b => .boolean b
  | .integer n => .integer n
  | .decimal x => .decimal x
  | .text => .text text

/-- The value of a text whose tag asks for a kind. -/
def typedValue (type : CoreType) (text : String) : Except Mismatch Value :=
  let value :=
    match type with
    | .null => if Scalar.isNull text then some Value.null else none
    | .boolean => (Scalar.boolean? text).map Value.boolean
    | .integer => (Scalar.integer? text.toList).map Value.integer
    | .decimal => (Scalar.decimal? text.toList).map Value.decimal
  match value with
  | some value => .ok value
  | none => .error (.unfit text type)

/-- The value of a scalar. A local tag has no meaning here, and any other tag makes it a text. -/
def scalarValue (tag : Option String) (text : String) (plain : Bool) : Except Mismatch Value :=
  match tag with
  | none => .ok (if plain then plainValue text else .text text)
  | some tag =>
    match CoreType.ofTag? tag with
    | some type => typedValue type text
    | none => .ok (if plain && isLocalTag tag then plainValue text else .text text)

/-- The mismatch of a node that is not as expected. -/
def mismatchOf (expected : Expected) : Node → Mismatch
  | .scalar p text plain =>
    match scalarValue p.tag text plain with
    | .ok value => .wrongType value expected
    | .error cause => cause
  | .sequence _ _ => .wrongType (.sequence []) expected
  | .mapping _ _ => .wrongType (.mapping []) expected
  | .alias _ _ | .cut _ => .wrongType .null expected

/-- Reads the text of a scalar as it is written. -/
def readText (anchors : Anchors) (expected : Expected) (way : Way) (node : Node) :
    Reading String := do
  match ← follow anchors node with
  | .scalar _ text _ => return text
  | node => Reading.located ⟨positionOf node, way⟩ (.mismatch (mismatchOf expected node))

/-- Whether a scalar means that a section is absent: a plain null, or nothing at all. -/
def isAbsent (tag : Option String) (text : String) (plain : Bool) : Except Mismatch Bool :=
  if !plain then .ok false
  else
    match tag with
    | none => .ok (text.isEmpty || Scalar.isNull text)
    | some tag =>
      if CoreType.ofTag? tag == some .null then
        if Scalar.isNull text then .ok true else .error (.unfit text .null)
      else .ok false

/-- Reads a section that may be absent. -/
def readOptional {α : Type} (anchors : Anchors) (read : Node → Reading α) (node : Node) :
    Reading (Option α) := do
  match ← follow anchors node with
  | .scalar p text plain =>
    match isAbsent p.tag text plain with
    | .ok true => return none
    | .ok false => return some (← read (.scalar p text plain))
    | .error cause => .mismatch cause
  | node => return some (← read node)

/-- Reads a mapping whose inside may be so deep. -/
def readMapping {α : Type} (anchors : Anchors) (depth : Nat) (expected : Expected) (way : Way)
    (read : Nat → List (Node × Node) → Reading α) (node : Node) : Reading α := do
  let node ← follow anchors node
  Reading.located ⟨positionOf node, way⟩ <|
    match node with
    | .mapping p entries =>
      match depth with
      | 0 => .fail (.tooDeep p.position)
      | depth + 1 => read depth entries
    | .scalar p text plain =>
      if plain && text.isEmpty then read depth []
      else .mismatch (mismatchOf expected (.scalar p text plain))
    | node => .mismatch (mismatchOf expected node)

/-- Reads a sequence whose inside may be so deep. -/
def readSequence {α : Type} (anchors : Anchors) (depth : Nat) (way : Way)
    (read : Nat → List Node → Reading α) (node : Node) : Reading α := do
  let node ← follow anchors node
  Reading.located ⟨positionOf node, way⟩ <|
    match node with
    | .sequence p items =>
      match depth with
      | 0 => .fail (.tooDeep p.position)
      | depth + 1 => read depth items
    | .scalar p text plain =>
      if plain && text.isEmpty then read depth []
      else .mismatch (mismatchOf .sequence (.scalar p text plain))
    | node => .mismatch (mismatchOf .sequence node)

/-- Reads items one after the other; the first one has the given index. -/
def readItems {α : Type} (way : Way) (read : Way → Node → Reading α) (index : Nat) :
    List Node → Reading (List α)
  | [] => return []
  | item :: items => do
    let value ← read (.index index :: way) item
    let values ← readItems way read (index + 1) items
    return value :: values

/-- Reads entries whose keys are names, which may be repeated. -/
def readNamed {α : Type} (anchors : Anchors) (way : Way) (read : Way → Node → Reading α) :
    List (Node × Node) → Reading (List (String × α))
  | [] => return []
  | (key, value) :: entries => do
    let name ← readText anchors .text way key
    let value ← read (stepOf key :: way) value
    let others ← readNamed anchors way read entries
    return (name, value) :: others

/-- Reads entries whose keys are values, which must not be repeated. -/
def readEntries (way : Way) (read : Way → Node → Reading Value) (seen : List Value) :
    List (Node × Node) → Reading (List (Value × Value))
  | [] => return []
  | (keyNode, valueNode) :: entries => do
    let key ← read way keyNode
    -- The key is checked before its value is read, so of two faults this one comes first.
    match seen.find? key.same with
    | some earlier => .mismatch (.repeatedKey earlier)
    | none =>
      let value ← read (stepOf keyNode :: way) valueNode
      let others ← readEntries way read (key :: seen) entries
      return (key, value) :: others

/-- The value with a local tag around it. -/
def withTag (tag : Option String) (value : Value) : Value :=
  match tag with
  | some tag => if isLocalTag tag then .tagged (String.ofList (Value.tagName tag)) value else value
  | none => value

/-- The value of a scalar. A whole number has to fit into 64 bits. -/
def readScalar (p : Properties) (text : String) (plain : Bool) : Reading Value :=
  match scalarValue p.tag text plain with
  | .error cause => .mismatch cause
  | .ok (.integer n) =>
    if n < -(Number.powerOfTwo 63 : Int) ∨ (Number.powerOfTwo 64 : Int) ≤ n then
      .mismatch (.wrongType (.integer n) .value)
    else return withTag p.tag (.integer n)
  | .ok value => return withTag p.tag value

/-- Reads any value. -/
def readValue (anchors : Anchors) : (depth : Nat) → Way → Node → Reading Value
  | 0, way, node => do
    let node ← follow anchors node
    Reading.located ⟨positionOf node, way⟩ <|
      match node with
      | .scalar p text plain => readScalar p text plain
      | node => .fail (.tooDeep (positionOf node))
  | depth + 1, way, node => do
    let node ← follow anchors node
    Reading.located ⟨positionOf node, way⟩ <|
      match node with
      | .scalar p text plain => readScalar p text plain
      | .sequence p items => do
        let items ← readItems way (readValue anchors depth) 0 items
        return withTag p.tag (.sequence items)
      | .mapping p entries => do
        let entries ← readEntries way (readValue anchors depth) [] entries
        return withTag p.tag (.mapping entries)
      | .alias .. | .cut _ => .fail .malformed

/-- Reads the sections of a definition; `read` is what the sections before say, and `seen`
are the names of these. -/
def readSections (anchors : Anchors) (depth : Nat) (way : Way) (read : Definition)
    (seen : List String) : List (Node × Node) → Reading Definition
  | [] => return read
  | (key, value) :: sections => do
    let name ← readText anchors .sectionName way key
    let inner := stepOf key :: way
    if name == "$def" || name == "$fields" || name == "classes" then
      -- That a section is repeated is told before it is read.
      if seen.contains name then .mismatch (.repeatedSection name)
      else if name == "$def" then
        let tag ← readOptional anchors (readText anchors .text inner) value
        readSections anchors depth way { read with tag } (name :: seen) sections
      else if name == "$fields" then
        let fields ←
          readOptional anchors
            (readMapping anchors depth .mapping inner fun depth =>
              readNamed anchors inner (readValue anchors depth))
            value
        readSections anchors depth way { read with fields } (name :: seen) sections
      else
        let classes ←
          readOptional anchors
            (readSequence anchors depth inner fun depth =>
              readItems inner (readValue anchors depth) 0)
            value
        readSections anchors depth way { read with classes } (name :: seen) sections
    else
      passOver value
      readSections anchors depth way read seen sections

/-- Reads a definition. -/
def readDefinition (anchors : Anchors) (depth : Nat) (way : Way) : Node → Reading Definition :=
  readMapping anchors depth .definition way fun depth =>
    readSections anchors depth way ⟨none, none, none⟩ []

/-- Reads the sections of a document; `read` is what the sections before say, and `seen` tells
whether the definitions are among them. -/
def readTopSections (anchors : Anchors) (depth : Nat) (read : Draft) (seen : Bool) :
    List (Node × Node) → Reading Draft
  | [] => return read
  | (key, value) :: sections => do
    let name ← readText anchors .sectionName [] key
    if name == "defs" then
      if seen then .mismatch (.repeatedSection name)
      else
        let way := [stepOf key]
        let definitions ←
          readOptional anchors
            (readMapping anchors depth .mapping way fun depth =>
              readNamed anchors way (readDefinition anchors depth))
            value
        readTopSections anchors depth ⟨definitions⟩ true sections
    else
      passOver value
      readTopSections anchors depth read seen sections

/-- The draft whose outermost node is given. -/
def ofRoot (root : Node) : Except Document.Fault Draft :=
  let anchors := Anchors.ofRoot root
  let reading : Reading Draft :=
    readMapping anchors maxDepth .document []
      (fun depth => readTopSections anchors depth ⟨none⟩ false) root
  (reading.run 0).map Prod.fst

/-- The draft of a document. Nothing may follow the document. -/
def ofTree (tree : Tree) : Except Document.Fault Draft := do
  let draft ←
    match tree.root with
    | none => .ok ⟨none⟩
    | some root => ofRoot root
  match tree.ending with
  | .alone => return draft
  | .malformed => .error .malformed
  | .followed => .error .severalDocuments

/-- The draft that a text is. -/
def ofText (text : String) : Except Document.Fault Draft :=
  ofTree (Tree.ofText text)

end DatasetSchema.Draft
