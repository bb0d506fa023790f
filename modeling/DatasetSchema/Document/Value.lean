import DatasetSchema.Number.Shortest

/-!
# Values of documents

A value is what a node of a document stands for, without regard to how it is written.
-/

namespace DatasetSchema.Document

/-- A value of a document. -/
inductive Value where
  | null
  | boolean (value : Bool)
  | integer (value : Int)
  /-- A number with a point or an exponent. -/
  | decimal (value : Number.Binary64)
  | text (value : String)
  | sequence (items : List Value)
  | mapping (entries : List (Value × Value))
  /-- A value with a tag that has no meaning here. -/
  | tagged (tag : String) (value : Value)
  deriving Repr

namespace Value

/-- The text of a scalar; nothing, sequences and mappings have none. -/
def scalarText? : Value → Option String
  | .text value => some value
  | .integer value => some (toString value)
  | .decimal value => some value.text
  | .boolean true => some "true"
  | .boolean false => some "false"
  | .tagged _ value => value.scalarText?
  | .null | .sequence _ | .mapping _ => none

/-- The part of a tag that tells it from others: all but a `!` before it. -/
def tagName (tag : String) : List Char :=
  match tag.toList with
  | '!' :: c :: cs => c :: cs
  | cs => cs

mutual

/-- Whether two values are one key. The order of entries does not matter. -/
def same : Value → Value → Bool
  | .null, .null => true
  | .boolean a, .boolean b => a == b
  | .integer a, .integer b => a == b
  | .decimal a, .decimal b => a.same b
  | .text a, .text b => a == b
  | .sequence a, .sequence b => sameItems a b
  | .mapping a, .mapping b => a.length == b.length && sameEntries a b
  | .tagged s a, .tagged t b => tagName s == tagName t && a.same b
  | _, _ => false

/-- Whether two sequences have the same items. -/
def sameItems : List Value → List Value → Bool
  | [], [] => true
  | a :: as, b :: bs => a.same b && sameItems as bs
  | _, _ => false

/-- Whether all entries of the first mapping are entries of the second. -/
def sameEntries : List (Value × Value) → List (Value × Value) → Bool
  | [], _ => true
  | (key, value) :: rest, b =>
    b.any (fun entry => key.same entry.1 && value.same entry.2) && sameEntries rest b

end

end Value

end DatasetSchema.Document
