import DatasetSchema.Dependency.Graph
import Mathlib.Data.List.Nodup
import Mathlib.Logic.Relation

/-!
# References between definitions

A definition refers to another one if some field type mentions its name, at any depth of lists, and
the name is defined. This is stated here without the graph, and the graph is shown to have exactly
these references as its edges, each of them once.

## Main results

* `Schema.mem_edges_graph_iff`: the edges are the references;
* `Schema.nodup_edges_graph`: however often a reference is written, it is one edge;
* `Schema.mem_dependencies_iff`: the dependencies in the graph are the names referred to.
-/

namespace DatasetSchema

/-- The type is a label of the class domain `name`, or a list whose elements mention it. -/
inductive FieldType.Mentions : FieldType → String → Prop
  | label (name : String) : Mentions (.label name) name
  | list {element : FieldType} {name : String} (ordered : Option Bool) :
      Mentions element name → Mentions (.list element ordered) name

/-- The references of a type are the names it mentions. -/
theorem FieldType.mem_references_iff {type : FieldType} {name : String} :
    name ∈ type.references ↔ type.Mentions name := by
  constructor
  · intro h
    induction type with
    | label domain =>
      obtain rfl : name = domain := by simpa [references] using h
      exact .label name
    | list element ordered ih => exact .list ordered (ih h)
    | plain | date | time => simp [references] at h
  · intro h
    induction h with
    | label name => simp [references]
    | list ordered _ ih => exact ih

namespace Schema

/-- The schema defines `name` as a struct with a field whose type mentions `dependency`, and it
defines `dependency`. -/
def RefersTo (schema : Schema) (name dependency : String) : Prop :=
  dependency ∈ schema.names ∧
    ∃ fields, ⟨name, .struct fields⟩ ∈ schema.entries ∧
      ∃ field ∈ fields, field.type.Mentions dependency

variable {schema : Schema} {name dependency : String} {definition : Definition}

/-- What is found under a name is the one definition that has it. -/
theorem get?_eq_some_iff : schema.get? name = some definition ↔
    ⟨name, definition⟩ ∈ schema.entries := by
  rw [get?, Option.map_eq_some_iff]
  constructor
  · rintro ⟨entry, hfind, rfl⟩
    obtain rfl : entry.name = name := by simpa using List.find?_some hfind
    exact List.mem_of_find?_eq_some hfind
  · intro hentry
    have hsome : (schema.entries.find? fun entry => entry.name == name).isSome :=
      List.find?_isSome.mpr ⟨_, hentry, by simp⟩
    obtain ⟨entry, hfind⟩ := Option.isSome_iff_exists.mp hsome
    have hname : entry.name = name := by simpa using List.find?_some hfind
    -- No other definition has the name.
    obtain rfl : entry = ⟨name, definition⟩ :=
      List.inj_on_of_nodup_map schema.nodup_names (List.mem_of_find?_eq_some hfind) hentry hname
    exact ⟨_, hfind, rfl⟩

theorem RefersTo.mem_left (h : schema.RefersTo name dependency) : name ∈ schema.names := by
  obtain ⟨-, fields, hentry, -⟩ := h
  exact List.mem_map_of_mem (f := Entry.name) hentry

theorem RefersTo.mem_right (h : schema.RefersTo name dependency) : dependency ∈ schema.names := h.1

/-- A defined name refers to the defined names among the references of its definition. -/
theorem refersTo_iff :
    schema.RefersTo name dependency ↔
      dependency ∈ schema.names ∧
        ∃ entry ∈ schema.entries, entry.name = name ∧ dependency ∈ entry.definition.references := by
  refine and_congr_right fun _ => ⟨?_, ?_⟩
  · rintro ⟨fields, hentry, field, hfield, hmentions⟩
    refine ⟨_, hentry, rfl, ?_⟩
    exact List.mem_flatMap.2 ⟨field, hfield, FieldType.mem_references_iff.2 hmentions⟩
  · rintro ⟨⟨_, definition⟩, hentry, rfl, hreference⟩
    cases definition with
    | struct fields =>
      obtain ⟨field, hfield, hmentions⟩ := List.mem_flatMap.1 hreference
      exact ⟨fields, hentry, field, hfield, FieldType.mem_references_iff.1 hmentions⟩
    | classDomain classes => simp [Definition.references] at hreference

end Schema

/-! ## The edges of the graph -/

namespace Dependency.Graph

variable {graph : Graph} {edge : String × String}

@[simp]
theorem names_addReference (dependent reference : String) :
    (graph.addReference dependent reference).names = graph.names := by
  unfold addReference addEdge
  split <;> rfl

/-- Adding a reference adds its edge if the reference is a node. -/
theorem mem_edges_addReference (dependent reference : String) :
    edge ∈ (graph.addReference dependent reference).edges ↔
      edge ∈ graph.edges ∨ reference ∈ graph.names ∧ edge = (reference, dependent) := by
  unfold addReference addEdge
  split
  · next h =>
    have hmem : reference ∈ graph.names := by simpa using h
    simp [hmem, or_comm]
  · next h =>
    have hmem : reference ∉ graph.names := by simpa using h
    simp [hmem]

theorem nodup_edges_addReference (dependent reference : String) (h : graph.edges.Nodup) :
    (graph.addReference dependent reference).edges.Nodup := by
  unfold addReference addEdge
  split
  · exact h.insert
  · exact h

@[simp]
theorem names_addEntry (entry : Entry) : (graph.addEntry entry).names = graph.names := by
  unfold addEntry
  induction entry.definition.references generalizing graph with
  | nil => rfl
  | cons reference references ih => rw [List.foldl_cons, ih, names_addReference]

/-- Adding a definition adds an edge from each node that it refers to. -/
theorem mem_edges_addEntry (entry : Entry) :
    edge ∈ (graph.addEntry entry).edges ↔
      edge ∈ graph.edges ∨
        edge.1 ∈ graph.names ∧ edge.1 ∈ entry.definition.references ∧ edge.2 = entry.name := by
  unfold addEntry
  induction entry.definition.references generalizing graph with
  | nil => simp
  | cons reference references ih =>
    rw [List.foldl_cons, ih, mem_edges_addReference, names_addReference, List.mem_cons]
    obtain ⟨dependency, dependent⟩ := edge
    simp only [Prod.mk.injEq]
    constructor
    · rintro ((h | ⟨hmem, rfl, rfl⟩) | ⟨hmem, href, rfl⟩)
      · exact .inl h
      · exact .inr ⟨hmem, .inl rfl, rfl⟩
      · exact .inr ⟨hmem, .inr href, rfl⟩
    · rintro (h | ⟨hmem, rfl | href, rfl⟩)
      · exact .inl (.inl h)
      · exact .inl (.inr ⟨hmem, rfl, rfl⟩)
      · exact .inr ⟨hmem, href, rfl⟩

theorem nodup_edges_addEntry (entry : Entry) (h : graph.edges.Nodup) :
    (graph.addEntry entry).edges.Nodup := by
  unfold addEntry
  induction entry.definition.references generalizing graph with
  | nil => exact h
  | cons reference references ih => exact ih (nodup_edges_addReference entry.name reference h)

@[simp]
theorem mem_inOrder {name : String} {names : List String} :
    name ∈ graph.inOrder names ↔ name ∈ names :=
  List.mem_mergeSort

theorem mem_incoming_iff {name dependency : String} :
    dependency ∈ graph.incoming name ↔ (dependency, name) ∈ graph.edges := by
  rw [incoming, List.mem_map]
  constructor
  · rintro ⟨⟨_, dependent⟩, hfiltered, rfl⟩
    obtain ⟨hedge, hname⟩ := List.mem_filter.1 hfiltered
    obtain rfl : dependent = name := eq_of_beq hname
    exact hedge
  · intro hedge
    exact ⟨(dependency, name), List.mem_filter.2 ⟨hedge, beq_self_eq_true name⟩, rfl⟩

/-- The dependencies of a name of the graph are the names with an edge to it. -/
theorem mem_dependencies_iff_edge {name dependency : String} :
    dependency ∈ graph.dependencies name ↔
      name ∈ graph.names ∧ (dependency, name) ∈ graph.edges := by
  rw [dependencies]
  split
  · next hname =>
    have hmem : name ∈ graph.names := by simpa using hname
    rw [mem_inOrder, mem_incoming_iff, and_iff_right hmem]
  · next hname =>
    have hmem : name ∉ graph.names := by simpa using hname
    simp [hmem]

/-- If no edge is there twice, a name has one edge at most from another one. -/
theorem nodup_incoming (h : graph.edges.Nodup) (name : String) : (graph.incoming name).Nodup := by
  apply List.Nodup.map_on ?_ (h.filter _)
  rintro ⟨first, dependent⟩ hfirst ⟨second, dependent'⟩ hsecond heq
  obtain rfl : dependent = name := eq_of_beq (List.mem_filter.1 hfirst).2
  obtain rfl : dependent' = dependent := eq_of_beq (List.mem_filter.1 hsecond).2
  obtain rfl : first = second := heq
  rfl

end Dependency.Graph

namespace Schema

open Dependency

variable {schema : Schema} {name dependency : String}

/-- Adding definitions one after the other keeps the nodes and adds the edges of all of them. -/
theorem foldl_addEntry (entries : List Entry) (graph : Graph) :
    (entries.foldl Graph.addEntry graph).names = graph.names ∧
      ∀ edge, edge ∈ (entries.foldl Graph.addEntry graph).edges ↔
        edge ∈ graph.edges ∨ edge.1 ∈ graph.names ∧
          ∃ entry ∈ entries, edge.1 ∈ entry.definition.references ∧ edge.2 = entry.name := by
  induction entries generalizing graph with
  | nil => simp
  | cons entry entries ih =>
    obtain ⟨hnames, hedges⟩ := ih (graph.addEntry entry)
    rw [List.foldl_cons]
    refine ⟨by rw [hnames, Graph.names_addEntry], fun edge => ?_⟩
    rw [hedges, Graph.mem_edges_addEntry, Graph.names_addEntry, List.exists_mem_cons_iff]
    tauto

@[simp]
theorem names_graph (schema : Schema) : schema.graph.names = schema.names :=
  (foldl_addEntry schema.entries _).1

/-- The graph has an edge exactly where a definition refers to another one. -/
theorem mem_edges_graph_iff :
    (dependency, name) ∈ schema.graph.edges ↔ schema.RefersTo name dependency := by
  -- The graph starts out with all names as nodes, so a reference may come before its definition.
  rw [graph, (foldl_addEntry schema.entries _).2, refersTo_iff]
  simp only [List.not_mem_nil, false_or]
  refine and_congr_right fun _ => exists_congr fun entry => and_congr_right fun _ => ?_
  rw [and_comm, eq_comm]

/-- No edge of the graph is there twice, however often a reference is written. -/
theorem nodup_edges_graph (schema : Schema) : schema.graph.edges.Nodup := by
  have h : ∀ (entries : List Entry) (graph : Graph), graph.edges.Nodup →
      (entries.foldl Graph.addEntry graph).edges.Nodup := by
    intro entries
    induction entries with
    | nil => exact fun _ h => h
    | cons entry entries ih => exact fun graph h => ih _ (Graph.nodup_edges_addEntry entry h)
  exact h schema.entries _ List.nodup_nil

/-- The dependencies of a name are the names that it refers to. -/
theorem mem_dependencies_iff :
    dependency ∈ schema.graph.dependencies name ↔ schema.RefersTo name dependency := by
  rw [Graph.mem_dependencies_iff_edge, names_graph, mem_edges_graph_iff]
  exact and_iff_right_of_imp RefersTo.mem_left

end Schema

end DatasetSchema
