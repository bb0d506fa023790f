import DatasetSchema.Dependency.Circle
import DatasetSchema.Dependency.Countdown

/-!
# The order of emission

The generated module declares every definition after those it depends on, and apart from that
keeps the order of declaration: the next declaration is always the first one whose dependencies
are all declared. There is no such order if definitions depend on each other in a circle; each
circle is then reported.
-/

namespace DatasetSchema

open Dependency

/-- The order in which the names of a graph with the given components are emitted. -/
def Dependency.Graph.emissionOrder (graph : Graph) (components : List (List String)) :
    Except (List Diagnostic) (List String) := do
  graph.checkAcyclic components
  return ((Countdown.start graph).run graph).order

namespace Schema

/-- The order in which definitions are emitted. -/
def emissionOrder (schema : Schema) : Except (List Diagnostic) (List String) :=
  schema.graph.emissionOrder schema.graph.components

/-- The order in which definitions are emitted, with the notes on references. -/
def noteEmissionOrder (schema : Schema) : Attempt (List Diagnostic) (List String) := do
  schema.noteReferences
  let order ← .ofExcept schema.emissionOrder
  .note (.orderComputed order.length)
  return order

end Schema

end DatasetSchema
