import DatasetSchema.Compilation.Failure
import DatasetSchema.Declaration.Layout
import DatasetSchema.Declaration.OfSchema
import DatasetSchema.Dependency
import DatasetSchema.Draft.Load
import DatasetSchema.Draft.OfDocument

/-!
# Compilation

A document is read as a draft, the draft is checked and becomes a schema, its definitions are put in
order and become declarations, and the module with these is written down.
-/

namespace DatasetSchema

/-- The schema that a document is. -/
def Schema.ofText [Document.SyntaxReporter] (strict : Bool) (source : String) :
    Attempt Diagnostic Schema := do
  .note .readingDocument
  let draft ← .ofExcept ((Draft.ofText source).mapError (Document.Fault.diagnostic source))
  let schema ← (draft.load strict).mapError Draft.Fault.diagnostic
  .note (.schemaLoaded schema.size)
  return schema

namespace Settings

/-- The schema that a document is, read with the given settings. -/
def parse [Document.SyntaxReporter] (settings : Settings) (source : String) :
    Attempt Failure Schema := do
  .note .parsingSchema
  let schema ←
    (Schema.ofText settings.strictIdentifiers source).mapError fun d => .parse [d] source
  .note (.schemaParsed schema.size)
  .note .schemaShown
  return schema

/-- The text of the module generated for a schema. -/
def generate (settings : Settings) (schema : Schema) : Attempt Failure String := do
  .note (.buildingGraph schema.size)
  let order ← schema.noteEmissionOrder.mapError .graph
  .note (.generatingCode order.length)
  let m ← schema.noteModule order
  .note .moduleShown
  let code := m.render settings
  .note (.codeGenerated code.utf8ByteSize)
  return code

/-- The text of the module generated for a document. -/
def compile [Document.SyntaxReporter] (settings : Settings) (source : String) :
    Attempt Failure String := do
  let schema ← settings.parse source
  settings.generate schema

end Settings

end DatasetSchema
