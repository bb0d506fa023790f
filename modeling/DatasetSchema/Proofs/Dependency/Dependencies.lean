import DatasetSchema.Proofs.Dependency.Report

/-!
# The dependencies of a name

The dependencies of a name are read back from the graph, where each is one edge. They are the
definitions that it refers to, itself among them if it does, each once and in the order of
declaration, and nothing else is: a class domain and a name that is not defined have none, and what
the fields mention without its being defined makes no difference.

## Main definitions

* `Schema.withoutUndefined`: a schema without the fields that mention a name that is not defined.

## Main results

* `Schema.dependencies_withoutUndefined`: the dependencies are the same without these fields;
* `Schema.dependencies_are_referred_in_order`: which names are the dependencies, and in which order.
-/

namespace DatasetSchema

open Dependency

/-- The definition with only those of its fields that mention no other names than the given ones. -/
def Definition.restrictTo (names : List String) : Definition → Definition
  | .struct fields => .struct (fields.filter fun field => field.type.references.all names.contains)
  | .classDomain classes => .classDomain classes

namespace Schema

variable {schema : Schema} {name dependency : String}

/-- The schema without the fields that mention a name that is not defined. -/
def withoutUndefined (schema : Schema) : Schema where
  entries := schema.entries.map fun entry => ⟨entry.name, entry.definition.restrictTo schema.names⟩
  nodup_names := by
    rw [List.map_map]
    exact schema.nodup_names

theorem names_withoutUndefined : schema.withoutUndefined.names = schema.names := by
  rw [names, withoutUndefined, List.map_map]
  rfl

end Schema

/-- A type mentions one name at most. -/
theorem FieldType.Mentions.unique {type : FieldType} {a b : String} (ha : type.Mentions a)
    (hb : type.Mentions b) : a = b := by
  induction ha with
  | label => cases hb; rfl
  | list _ _ ih =>
    cases hb with
    | list _ hb => exact ih hb

namespace Schema

variable {schema : Schema} {name dependency : String}

/-- A field that mentions a definition mentions nothing else. -/
theorem all_references_of_mentions {type : FieldType} (h : type.Mentions dependency)
    (hdependency : dependency ∈ schema.names) : type.references.all schema.names.contains := by
  rw [List.all_eq_true]
  intro reference hreference
  obtain rfl := h.unique (FieldType.mem_references_iff.1 hreference)
  simpa using hdependency

/-- The references between definitions are the same without the fields that mention something
else. -/
theorem refersTo_withoutUndefined :
    schema.withoutUndefined.RefersTo name dependency ↔ schema.RefersTo name dependency := by
  rw [RefersTo, RefersTo, names_withoutUndefined]
  refine and_congr_right fun hdependency => ⟨?_, ?_⟩
  · rintro ⟨fields, hentry, field, hfield, hmentions⟩
    obtain ⟨⟨_, definition⟩, hmem, heq⟩ := List.mem_map.1 hentry
    cases definition with
    | struct fields' =>
      obtain ⟨rfl, rfl⟩ : _ ∧ fields'.filter _ = fields := by
        simpa [Definition.restrictTo] using heq
      exact ⟨fields', hmem, field, (List.mem_filter.1 hfield).1, hmentions⟩
    | classDomain => simp [Definition.restrictTo] at heq
  · rintro ⟨fields, hentry, field, hfield, hmentions⟩
    have hkept := all_references_of_mentions hmentions hdependency
    exact ⟨_, List.mem_map.2 ⟨_, hentry, rfl⟩, field, List.mem_filter.2 ⟨hfield, hkept⟩, hmentions⟩

/-- The dependencies stand in the order of declaration, each once since no edge is there twice. -/
theorem dependencies_sublist (schema : Schema) (name : String) :
    (schema.dependencies name).Sublist schema.names := by
  rw [dependencies, Graph.dependencies, ← names_graph]
  split
  · apply Graph.inOrder_sublist_names (nodup_names_graph schema)
    · exact Graph.nodup_incoming schema.nodup_edges_graph name
    · intro dependency hdependency
      rw [names_graph]
      exact (mem_edges_graph_iff.1 (Graph.mem_incoming_iff.1 hdependency)).mem_right
  · exact List.nil_sublist _

/-- The dependencies of a name are the same without the fields that mention what is not defined. -/
theorem dependencies_withoutUndefined (schema : Schema) (name : String) :
    schema.withoutUndefined.dependencies name = schema.dependencies name := by
  have hsublist := dependencies_sublist schema.withoutUndefined name
  rw [names_withoutUndefined] at hsublist
  rw [← names_graph] at hsublist
  refine Graph.eq_of_sublist_names (nodup_names_graph schema) hsublist ?_ fun dependency => ?_
  · rw [names_graph]
    exact dependencies_sublist schema name
  · exact mem_dependencies_iff.trans (refersTo_withoutUndefined.trans mem_dependencies_iff.symm)

/-- The dependencies of a name are the definitions that it refers to, each once and in the order of
declaration. A name that does not stand for a struct has none, and what is mentioned without its
being defined makes no difference. -/
theorem dependencies_are_referred_in_order (schema : Schema) (name : String) :
    (∀ dependency, dependency ∈ schema.dependencies name ↔ schema.RefersTo name dependency) ∧
      ((schema.dependencies name).Pairwise fun a b => schema.names.idxOf a < schema.names.idxOf b) ∧
      ((∀ fields, schema.get? name ≠ some (.struct fields)) → schema.dependencies name = []) ∧
      schema.withoutUndefined.dependencies name = schema.dependencies name := by
  have hmem : ∀ dependency, dependency ∈ schema.dependencies name ↔
      schema.RefersTo name dependency :=
    fun _ => mem_dependencies_iff
  have horder := Graph.pairwise_idxOf_names (nodup_names_graph schema)
  rw [names_graph] at horder
  refine ⟨hmem, horder.sublist (dependencies_sublist schema name), fun hstruct => ?_,
    dependencies_withoutUndefined schema name⟩
  rw [List.eq_nil_iff_forall_not_mem]
  intro dependency hdependency
  obtain ⟨-, fields, hentry, -⟩ := (hmem dependency).1 hdependency
  exact hstruct fields (get?_eq_some_iff.2 hentry)

/-- A struct with references to itself, to a class domain, twice, and to nothing. -/
def cats : Schema :=
  ⟨[⟨"Cat", .struct [⟨"parents", .list (.label "Cat") none⟩,
      ⟨"kind", .list (.label "Category") none⟩, ⟨"owner", .label "Person"⟩,
      ⟨"kinds", .label "Category"⟩]⟩,
    ⟨"Cate", .classDomain ["a"]⟩, ⟨"Category", .classDomain ["b"]⟩], by decide⟩

/-- A name that is part of another one is not mentioned with it, and a definition may depend on
itself. -/
example : cats.dependencies "Cat" = ["Cat", "Category"] := by
  rw [dependencies, Graph.dependencies, if_pos (by decide),
    Graph.inOrder_eq_filter (by decide) (by decide) (by decide)]
  decide

end Schema

end DatasetSchema
