import DatasetSchema.Dependency.Component
import DatasetSchema.Diagnostic

/-!
# Circles of dependencies

Definitions that reach each other and themselves over dependencies cannot be put in order. They form
a circle, and each circle is reported by one diagnostic. Circles are picked from the components of
the graph, which may be given in any order.
-/

namespace DatasetSchema

namespace Dependency

namespace Graph

/-- Whether a component is a circle: it has several members, or one that depends on itself. -/
def isCircle (graph : Graph) : List String → Bool
  | [single] => graph.edges.contains (single, single)
  | _ => true

/-- The circles among the components, ordered by the places of their members. -/
def circles (graph : Graph) (components : List (List String)) : List (List String) :=
  ((components.filter graph.isCircle).map graph.inOrder).mergeSort fun a b =>
    !(b.map graph.names.idxOf).lex (a.map graph.names.idxOf) Nat.blt

end Graph

/-- The diagnostic for a circle. -/
def circleDiagnostic (members : List String) : Diagnostic :=
  let quoted := members.map fun name => "`" ++ name ++ "`"
  let message :=
    match quoted with
    | [single] => "circular definition: " ++ single ++ " refers to itself"
    | _ => "circular definition between " ++ ", ".intercalate quoted
  (Diagnostic.error .circularDefinition message).withHelp
    "definitions must not depend on each other in a cycle; no emission order exists"

/-- Refuses a graph with circles among its components, with one diagnostic for each. -/
def Graph.checkAcyclic (graph : Graph) (components : List (List String)) :
    Except (List Diagnostic) Unit :=
  match graph.circles components with
  | [] => .ok ()
  | circles => .error (circles.map circleDiagnostic)

end Dependency

/-- Refuses a schema in which definitions depend on each other in a circle. -/
def Schema.checkAcyclic (schema : Schema) : Except (List Diagnostic) Unit :=
  schema.graph.checkAcyclic schema.graph.components

end DatasetSchema
