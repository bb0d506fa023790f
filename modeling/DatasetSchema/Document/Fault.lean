import DatasetSchema.Diagnostic
import DatasetSchema.Document.Glyph
import DatasetSchema.Document.Value
import DatasetSchema.Text.Bytes
import DatasetSchema.Text.Quoted

/-!
# Faults of documents

Why a document is no draft of a schema: its text is not well formed, or a node is not what is
expected at its place. The diagnostic shows the place of the node by the way to it from the
outermost node, by line and column, and by a label on the character where it begins.

What is wrong with a text that is not well formed is told by the library that reads
documents. Its words are its own, so they are a parameter; they are passed on, and the place
that it tells is labelled.
-/

namespace DatasetSchema.Document

/-- A step from a node to one inside it. -/
inductive Step where
  /-- To the value of a key that is a scalar. -/
  | key (text : String)
  /-- To the value of another key. -/
  | otherKey
  | index (n : Nat)
  deriving DecidableEq, Repr

/-- The way to a node from the outermost one, last step first. -/
abbrev Way := List Step

/-- A way as it is shown, such as `defs.Animals.classes[1]`. -/
def Way.text : Way → String
  | [] => ""
  | .index n :: way => Way.text way ++ "[" ++ toString n ++ "]"
  | [.key key] => key
  | .key key :: way => Way.text way ++ "." ++ key
  | [.otherKey] => "?"
  | .otherKey :: way => Way.text way ++ ".?"

/-- The place of a node. -/
structure Place where
  /-- Where its text begins. -/
  position : Position
  /-- How it is reached from the outermost node. -/
  way : Way
  deriving DecidableEq, Repr

/-- The way to a place, as it is shown before a message. -/
def Place.wayText (place : Place) : String :=
  if place.way.isEmpty then "" else place.way.text ++ ": "

/-- What can be expected at a place. -/
inductive Expected where
  | document
  | definition
  | mapping
  | sequence
  | text
  | sectionName
  | value
  deriving DecidableEq, Repr

/-- How an expectation is worded. -/
def Expected.wording : Expected → String
  | .document => "struct RawDocument"
  | .definition => "struct RawDefinition"
  | .mapping => "a mapping"
  | .sequence => "a sequence"
  | .text => "a string"
  | .sectionName => "field identifier"
  | .value => "any YAML value"

/-- The kinds of scalars that a tag can ask for. -/
inductive CoreType where
  | null
  | boolean
  | integer
  /-- Numbers with a point or an exponent. -/
  | decimal
  deriving DecidableEq, Repr

namespace CoreType

/-- How a kind is worded. -/
def wording : CoreType → String
  | .null => "null"
  | .boolean => "a boolean"
  | .integer => "an integer"
  | .decimal => "a float"

/-- The kind that a tag in full asks for. -/
def ofTag? (tag : String) : Option CoreType :=
  if tag == "tag:yaml.org,2002:null" then some .null
  else if tag == "tag:yaml.org,2002:bool" then some .boolean
  else if tag == "tag:yaml.org,2002:int" then some .integer
  else if tag == "tag:yaml.org,2002:float" then some .decimal
  else none

end CoreType

/-- How a whole number is shown: with a remark if it does not fit into 64 bits. -/
def shownInteger (n : Int) : String :=
  let code := "`" ++ toString n ++ "`"
  if (Number.powerOfTwo 64 : Int) ≤ n then "integer " ++ code ++ " as u128"
  else if n < -(Number.powerOfTwo 63 : Int) then "integer " ++ code ++ " as i128"
  else "integer " ++ code

/-- How a value is shown where another one is expected. -/
def Value.shown : Value → String
  | .null => "unit value"
  | .boolean true => "boolean `true`"
  | .boolean false => "boolean `false`"
  | .integer n => shownInteger n
  | .decimal x => "floating point `" ++ x.plainText ++ "`"
  | .text s => "string " ++ Text.quoted s
  | .sequence _ => "sequence"
  | .mapping _ => "map"
  | .tagged _ value => value.shown

/-- How a key is shown that a mapping has already. -/
def Value.shownAsKey : Value → String
  | .null => "with null key"
  | .boolean true => "with key `true`"
  | .boolean false => "with key `false`"
  | .integer n => "with key " ++ toString n
  | .decimal x => "with key " ++ x.text
  | .text s => "with key " ++ Text.quoted s
  | .sequence _ | .mapping _ | .tagged _ _ => "in YAML map"

/-- Why a node does not fit at its place. -/
inductive Mismatch where
  /-- Something else is expected there. Of a sequence or a mapping it does not matter what is
  inside. -/
  | wrongType (found : Value) (expected : Expected)
  /-- The text is not of the kind that its tag asks for. -/
  | unfit (text : String) (type : CoreType)
  | repeatedSection (name : String)
  | repeatedKey (key : Value)
  deriving Repr

/-- A mismatch in words. -/
def Mismatch.text : Mismatch → String
  | .wrongType found expected =>
    "invalid type: " ++ found.shown ++ ", expected " ++ expected.wording
  | .unfit text type =>
    "invalid value: string " ++ Text.quoted text ++ ", expected " ++ type.wording
  | .repeatedSection name => "duplicate field `" ++ name ++ "`"
  | .repeatedKey key => "duplicate entry " ++ key.shownAsKey

/-- What is told of a text that is not well formed. -/
structure SyntaxReport where
  /-- What is wrong, with the place as it is shown. -/
  text : String
  /-- Where it is wrong, if that is told. -/
  position? : Option Position
  deriving Repr

/-- The library that reads documents, as far as it reports texts that are not well formed. -/
class SyntaxReporter where
  /-- What is told of a text. -/
  report : String → SyntaxReport

/-- The report that tells no more than that something is wrong. -/
instance (priority := low) plainReporter : SyntaxReporter where
  report _ := ⟨"the document is not well formed", none⟩

/-- Why a document is no draft. -/
inductive Fault where
  | malformed
  | unknownAnchor (position : Position)
  /-- Too many sequences and mappings lie around this one. -/
  | tooDeep (position : Position)
  /-- Aliases are followed too often. -/
  | tooManyAliases
  | severalDocuments
  | mismatch (cause : Mismatch) (place : Option Place)
  deriving Repr

namespace Fault

/-- Where the fault is in a document with the given text. -/
def position? [SyntaxReporter] (source : String) : Fault → Option Position
  | .malformed => (SyntaxReporter.report source).position?
  | .unknownAnchor position | .tooDeep position => some position
  | .mismatch _ place => place.map Place.position
  | .tooManyAliases | .severalDocuments => none

/-- Line and column as they are shown behind the message; the first place of a
document is not shown. -/
def placeText (position : Position) : String :=
  if position.line = 0 ∧ position.column = 0 then ""
  else
    " at line " ++ toString (position.line + 1) ++ " column " ++ toString (position.column + 1)

/-- What is wrong with a document with the given text, and where. -/
def text [SyntaxReporter] (source : String) : Fault → String
  | .malformed => (SyntaxReporter.report source).text
  | .unknownAnchor position => "unknown anchor" ++ placeText position
  | .tooDeep position => "recursion limit exceeded" ++ placeText position
  | .tooManyAliases => "repetition limit exceeded"
  | .severalDocuments =>
    "deserializing from YAML containing more than one document is not supported"
  | .mismatch cause none => cause.text
  | .mismatch cause (some place) => place.wayText ++ cause.text ++ placeText place.position

/-- The span of the character at a position of a text that begins at `start`. -/
def charSpan (offset start : Nat) : List Char → Span
  | [] => Span.ofLength start 0
  | c :: cs =>
    if offset ≤ start then Span.ofLength start c.utf8Size
    else charSpan offset (start + c.utf8Size) cs

/-- The diagnostic for a fault of a document with the given text. -/
def diagnostic [SyntaxReporter] (source : String) (fault : Fault) : Diagnostic :=
  let d :=
    (Diagnostic.error .malformedDocument
        ("invalid schema document: " ++ fault.text source)).withHelp
      "a schema document is a YAML mapping with a top-level `defs` mapping"
  match fault.position? source with
  | some position => d.withLabel (charSpan position.offset 0 source.toList) "here"
  | none => d

end Fault

end DatasetSchema.Document
