import DatasetSchema.Journal

/-!
# The graph of dependencies

A struct depends on the definitions that its field types refer to. The graph has the defined
names as nodes, in the order of their declaration, and an edge from every dependency to every
name that depends on it, however often the reference is written. A reference to a name that is
not defined adds no edge.
-/

namespace DatasetSchema

namespace Dependency

/-- Names and the edges between them. -/
structure Graph where
  /-- The nodes in the order of their declaration. -/
  names : List String
  /-- The edges: a dependency, and a name that depends on it. -/
  edges : List (String × String)
  deriving DecidableEq, Repr

namespace Graph

/-- The graph with one more edge. An edge that is there already is not added again. -/
def addEdge (graph : Graph) (edge : String × String) : Graph :=
  { graph with edges := graph.edges.insert edge }

/-- The graph with an edge for one reference, if it is to a node. -/
def addReference (dependent : String) (graph : Graph) (reference : String) : Graph :=
  if graph.names.contains reference then graph.addEdge (reference, dependent) else graph

/-- The graph with the edges for all references of a definition. -/
def addEntry (graph : Graph) (entry : Entry) : Graph :=
  entry.definition.references.foldl (addReference entry.name) graph

/-- Names in the order of declaration. -/
def inOrder (graph : Graph) (names : List String) : List String :=
  names.mergeSort fun a b => graph.names.idxOf a ≤ graph.names.idxOf b

/-- The names that an edge leads from to a name, one for every edge. -/
def incoming (graph : Graph) (name : String) : List String :=
  (graph.edges.filter fun edge => edge.2 == name).map Prod.fst

/-- The names that a name depends on, in the order of declaration. -/
def dependencies (graph : Graph) (name : String) : List String :=
  if graph.names.contains name then graph.inOrder (graph.incoming name) else []

/-- The names that depend on a name, one for every edge. -/
def dependents (graph : Graph) (name : String) : List String :=
  (graph.edges.filter fun edge => edge.1 == name).map Prod.snd

/-- The number of edges that lead to a name. -/
def inDegree (graph : Graph) (name : String) : Nat :=
  graph.edges.countP fun edge => edge.2 == name

end Graph

end Dependency

namespace Schema

open Dependency

/-- The graph of the dependencies between the definitions of a schema. -/
def graph (schema : Schema) : Graph :=
  schema.entries.foldl Graph.addEntry ⟨schema.names, []⟩

/-- The defined names that a name refers to, each once, in the order of declaration. -/
def dependencies (schema : Schema) (name : String) : List String :=
  schema.graph.dependencies name

/-- The notes made when the references of a schema are collected: one for every occurrence. -/
def referenceNotes (schema : Schema) : List Note :=
  schema.entries.flatMap fun entry =>
    entry.definition.references.map fun reference =>
      if schema.contains reference then .edgeAdded reference entry.name
      else .undefinedReference entry.name reference

/-- Collects the references of a schema. -/
def noteReferences {ε : Type} (schema : Schema) : Attempt ε Unit :=
  ⟨schema.referenceNotes ++ [.graphBuilt schema.size schema.graph.edges.length], .ok ()⟩

end Schema

end DatasetSchema
