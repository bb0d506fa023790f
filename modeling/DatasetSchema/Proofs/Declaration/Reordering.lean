import DatasetSchema.Proofs.Declaration.Reference
import DatasetSchema.Proofs.Dependency.Report

/-!
# Definitions in another order

The definitions of a draft may come in any order. Loading checks them one after the other, the graph
is built from their places, and the countdown takes the earliest declaration first; still neither
what is accepted, nor the members of a circle, nor the text of a declaration depends on the order.
Only the order of the diagnostics, of the members in them and of the declarations does.

## Main definitions

* `Draft.Reordered`: drafts with the same definitions in another order;
* `Schema.circles`: the circles that are found for a schema;
* `Settings.GeneratesAlike`: what is generated for two schemas differs in its order only.

## Main results

* `Draft.load_reordered`: reordered drafts give schemas with the same definitions, or none;
* `Schema.perm_toFinset_circles`: the circles have the same members;
* `Draft.generatesAlike_of_reordered`: reordered drafts are treated alike from end to end.
-/

namespace DatasetSchema

open Relation Dependency Declaration

/-! ## Loading -/

namespace Draft

open Attempt

variable {strict : Bool} {draft draft' : Draft} {schema schema' : Schema}

/-- The definitions of one draft are those of the other, in some order. -/
def Reordered (draft draft' : Draft) : Prop :=
  Option.Rel List.Perm draft.definitions draft'.definitions

theorem Reordered.symm (h : draft.Reordered draft') : draft'.Reordered draft := by
  obtain ⟨definitions⟩ := draft
  obtain ⟨definitions'⟩ := draft'
  cases h with
  | some hperm => exact .some hperm.symm
  | none => exact .none

theorem Reordered.exists_perm (h : draft.Reordered draft') {written : List (String × Definition)}
    (hwritten : draft.definitions = some written) :
    ∃ written', draft'.definitions = some written' ∧ written.Perm written' := by
  obtain ⟨definitions⟩ := draft
  obtain ⟨definitions'⟩ := draft'
  obtain rfl : definitions = some written := hwritten
  cases h with
  | some hperm => exact ⟨_, rfl, hperm⟩

/-- A condition on the definitions and on their names does not see the order. -/
theorem Loadable.of_reordered (hload : draft.Loadable strict) (h : draft.Reordered draft') :
    draft'.Loadable strict := by
  obtain ⟨written, hwritten, hloads, hnodup, hstrict⟩ := hload
  obtain ⟨written', hwritten', hperm⟩ := h.exists_perm hwritten
  have husable : (usableEntries .definition written).Perm (usableEntries .definition written') :=
    hperm.filter _
  refine ⟨written', hwritten', ?_, ?_, ?_⟩
  · intro entry hentry
    exact hloads entry (husable.mem_iff.mpr hentry)
  · exact (husable.map Prod.fst).nodup_iff.mp hnodup
  · intro hs entry hentry
    exact hstrict hs entry (hperm.mem_iff.mpr hentry)

/-- One type at most is written. -/
theorem rightUnique_writesField : Relator.RightUnique WritesField := by
  rintro entry ⟨name, type⟩ ⟨name', type'⟩ ⟨rfl, text, htext, htype⟩ ⟨rfl, text', htext', htype'⟩
  obtain rfl : text = text' := Option.some.inj (htext.symm.trans htext')
  obtain rfl : type = type' := Except.ok.inj (htype.symm.trans htype')
  rfl

/-- One definition at most is described. -/
theorem Definition.rightUnique_describes : Relator.RightUnique Definition.Describes := by
  intro draft definition definition' h h'
  cases definition with
  | struct fields =>
    obtain ⟨htag, written, hwritten, hfields⟩ := h
    cases definition' with
    | struct fields' =>
      obtain ⟨-, written', hwritten', hfields'⟩ := h'
      obtain rfl : written = written' := Option.some.inj (hwritten.symm.trans hwritten')
      rw [rightUnique_writesField.forall₂ hfields hfields']
    | classDomain classes => exact absurd (htag.symm.trans h'.1) (by decide)
  | classDomain classes =>
    obtain ⟨htag, written, hwritten, rfl⟩ := h
    cases definition' with
    | struct fields' => exact absurd (htag.symm.trans h'.1) (by decide)
    | classDomain classes' =>
      obtain ⟨-, written', hwritten', rfl⟩ := h'
      obtain rfl : written = written' := Option.some.inj (hwritten.symm.trans hwritten')
      rfl

theorem rightUnique_describesEntry : Relator.RightUnique DescribesEntry := by
  rintro written ⟨name, definition⟩ ⟨name', definition'⟩ ⟨rfl, h⟩ ⟨rfl, h'⟩
  obtain rfl := Definition.rightUnique_describes h h'
  rfl

/-- Reordered drafts describe schemas with the same definitions. -/
theorem Describes.perm_entries (hdescribes : draft.Describes schema)
    (hdescribes' : draft'.Describes schema') (h : draft.Reordered draft') :
    schema.entries.Perm schema'.entries := by
  obtain ⟨written, hwritten, hentries⟩ := hdescribes
  obtain ⟨written', hwritten', hentries'⟩ := hdescribes'
  obtain ⟨_, heq, hperm⟩ := h.exists_perm hwritten
  obtain rfl := Option.some.inj (hwritten'.symm.trans heq)
  exact List.rel_perm_imp rightUnique_describesEntry hentries hentries' (hperm.filter _)

/-- Of two reordered drafts either both are loaded, with the same definitions, or none. -/
theorem load_reordered (strict : Bool) (h : draft.Reordered draft') :
    ((∃ schema, (draft.load strict).outcome = .ok schema) ↔
        ∃ schema', (draft'.load strict).outcome = .ok schema') ∧
      ∀ schema schema', (draft.load strict).outcome = .ok schema →
        (draft'.load strict).outcome = .ok schema' → schema.entries.Perm schema'.entries := by
  refine ⟨?_, ?_⟩
  · rw [(load_succeeds_iff_loadable strict draft).1, (load_succeeds_iff_loadable strict draft').1]
    exact ⟨fun hload => hload.of_reordered h, fun hload => hload.of_reordered h.symm⟩
  · intro schema schema' hschema hschema'
    exact (outcome_load_eq_ok_iff.mp hschema).2.perm_entries
      (outcome_load_eq_ok_iff.mp hschema').2 h

end Draft

/-! ## Circles -/

namespace Schema

variable {schema schema' : Schema}

theorem perm_names (h : schema.entries.Perm schema'.entries) : schema.names.Perm schema'.names :=
  h.map Entry.name

/-- Schemas with the same definitions have the same references. -/
theorem refersTo_eq_of_perm (h : schema.entries.Perm schema'.entries) :
    schema.RefersTo = schema'.RefersTo := by
  ext name dependency
  simp only [RefersTo, (perm_names h).mem_iff, h.mem_iff]

/-- The circles that are found for a schema. -/
def circles (schema : Schema) : List (List String) :=
  schema.graph.circles schema.graph.components

theorem mem_circles_iff {circle : List String} :
    circle ∈ schema.circles ↔ schema.IsCircle circle := by
  rw [circles, Graph.mem_circles_iff (isComponents_graph schema) (nodup_names_graph schema)
    edges_subset_names, dependsOn_graph, names_graph]
  rfl

/-- A set of names is that of a circle if its names reach each other and themselves, and no others
do. -/
theorem mem_map_toFinset_circles_iff {members : Finset String} :
    members ∈ schema.circles.map List.toFinset ↔
      ∃ name, TransGen schema.RefersTo name name ∧
        ∀ other, other ∈ members ↔
          TransGen schema.RefersTo name other ∧ TransGen schema.RefersTo other name := by
  rw [List.mem_map]
  constructor
  · rintro ⟨circle, hcircle, rfl⟩
    simp only [List.mem_toFinset]
    exact (mem_circles_iff.mp hcircle).2
  · rintro ⟨name, hpath, hmembers⟩
    -- The circle has these names in the order of their declaration.
    have hmem : ∀ other, other ∈ schema.names.filter (· ∈ members) ↔ other ∈ members := by
      intro other
      rw [List.mem_filter, decide_eq_true_eq, and_iff_right_iff_imp, hmembers]
      rintro ⟨hforth, -⟩
      obtain ⟨_, -, hrefers⟩ := TransGen.tail'_iff.mp hforth
      exact hrefers.mem_right
    have hcircle : schema.IsCircle (schema.names.filter (· ∈ members)) := by
      refine ⟨List.filter_sublist, name, hpath, ?_⟩
      intro other
      rw [hmem, hmembers]
    refine ⟨_, mem_circles_iff.mpr hcircle, ?_⟩
    ext other
    rw [List.mem_toFinset, hmem]

theorem nodup_map_toFinset_circles (schema : Schema) :
    (schema.circles.map List.toFinset).Nodup := by
  have hdisjoint : schema.circles.Pairwise List.Disjoint :=
    Graph.disjoint_circles (isComponents_graph schema) (nodup_names_graph schema)
  apply List.pairwise_map.mpr
  apply hdisjoint.imp_of_mem
  intro circle circle' hcircle _ hdisjoint heq
  obtain ⟨-, name, hpath, hmem⟩ := mem_circles_iff.mp hcircle
  have hname : name ∈ circle := (hmem name).mpr ⟨hpath, hpath⟩
  rw [← List.mem_toFinset, heq, List.mem_toFinset] at hname
  exact hdisjoint ((hmem name).mpr ⟨hpath, hpath⟩) hname

/-- In whichever order definitions are declared, their circles have the same members. -/
theorem perm_toFinset_circles (h : schema.entries.Perm schema'.entries) :
    (schema.circles.map List.toFinset).Perm (schema'.circles.map List.toFinset) := by
  apply (List.perm_ext_iff_of_nodup schema.nodup_map_toFinset_circles
    schema'.nodup_map_toFinset_circles).mpr
  intro members
  rw [mem_map_toFinset_circles_iff, mem_map_toFinset_circles_iff, refersTo_eq_of_perm h]

/-! ## Orders of emission -/

theorem emissionOrder_eq_error_of_circles (h : schema.circles ≠ []) :
    schema.emissionOrder = .error (schema.circles.map circleDiagnostic) := by
  rw [emissionOrder, Graph.emissionOrder, Graph.checkAcyclic_eq_error_iff.mpr ⟨h, rfl⟩]
  rfl

theorem exists_emissionOrder_of_circles (h : schema.circles = []) :
    ∃ order, schema.emissionOrder = .ok order :=
  ⟨_, emissionOrder_graph_eq_ok_iff.mpr ⟨h, rfl⟩⟩

/-- Schemas with the same definitions are written with the same classes. -/
theorem perm_classes {order order' : List String} (h : schema.entries.Perm schema'.entries)
    (horder : schema.emissionOrder = .ok order) (horder' : schema'.emissionOrder = .ok order') :
    (schema.module order).classes.Perm (schema'.module order').classes := by
  have hdeclarations : schema.declarations.Perm schema'.declarations := h.map _
  have hclasses := (isArrangement_of_emissionOrder horder).perm_declarations
  have hclasses' := (isArrangement_of_emissionOrder horder').perm_declarations
  exact hclasses.trans (hdeclarations.trans hclasses'.symm)

end Schema

/-! ## From end to end -/

namespace Settings

variable {settings : Settings} {schema schema' : Schema}

/-- A schema without an order of emission is refused with the diagnostics on its circles. -/
theorem outcome_generate_of_circles (h : schema.circles ≠ []) :
    (settings.generate schema).outcome = .error (.graph (schema.circles.map circleDiagnostic)) := by
  have hnoted : (schema.noteEmissionOrder.mapError Failure.graph).outcome =
      .error (.graph (schema.circles.map circleDiagnostic)) := by
    rw [Attempt.mapError, Schema.outcome_noteEmissionOrder,
      Schema.emissionOrder_eq_error_of_circles h]
    rfl
  rw [generate, Attempt.bind_of_ok rfl, Attempt.bind_of_error hnoted]

/-- Either both schemas are refused, for circles with the same members, or a module is written for
both, with the same declarations, each of them with the same text. -/
inductive GeneratesAlike (settings : Settings) (schema schema' : Schema) : Prop
  | refused (ne_nil : schema.circles ≠ []) (ne_nil' : schema'.circles ≠ [])
      (outcome : (settings.generate schema).outcome =
        .error (.graph (schema.circles.map circleDiagnostic)))
      (outcome' : (settings.generate schema').outcome =
        .error (.graph (schema'.circles.map circleDiagnostic)))
      (members : (schema.circles.map List.toFinset).Perm (schema'.circles.map List.toFinset))
  | generated {order order' : List String}
      (emissionOrder : schema.emissionOrder = .ok order)
      (emissionOrder' : schema'.emissionOrder = .ok order')
      (outcome : (settings.generate schema).outcome = .ok ((schema.module order).render settings))
      (outcome' : (settings.generate schema').outcome =
        .ok ((schema'.module order').render settings))
      (classes : (schema.module order).classes.Perm (schema'.module order').classes)
      (texts : ((schema.module order).classes.map (Class.render settings.indentWidth)).Perm
        ((schema'.module order').classes.map (Class.render settings.indentWidth)))

/-- Schemas with the same definitions are treated alike. -/
theorem generatesAlike_of_perm (settings : Settings) (h : schema.entries.Perm schema'.entries) :
    settings.GeneratesAlike schema schema' := by
  have hmembers := Schema.perm_toFinset_circles h
  by_cases hcircles : schema.circles = []
  · have hcircles' : schema'.circles = [] := by
      rw [hcircles] at hmembers
      exact List.map_eq_nil_iff.mp hmembers.nil_eq.symm
    obtain ⟨order, horder⟩ := Schema.exists_emissionOrder_of_circles hcircles
    obtain ⟨order', horder'⟩ := Schema.exists_emissionOrder_of_circles hcircles'
    have hclasses := Schema.perm_classes h horder horder'
    exact .generated horder horder' (outcome_generate_eq_ok_iff.mpr ⟨order, horder, rfl⟩)
      (outcome_generate_eq_ok_iff.mpr ⟨order', horder', rfl⟩) hclasses (hclasses.map _)
  · have hcircles' : schema'.circles ≠ [] := by
      intro hnil
      rw [hnil] at hmembers
      exact hcircles (List.map_eq_nil_iff.mp hmembers.eq_nil)
    exact .refused hcircles hcircles' (outcome_generate_of_circles hcircles)
      (outcome_generate_of_circles hcircles') hmembers

end Settings

namespace Draft

/-- In whichever order a draft has its definitions, it is loaded or not. If it is, a module
is generated or not: in the one case with the same declarations, in the other for circles
with the same members. -/
theorem generatesAlike_of_reordered (settings : Settings) (strict : Bool) {draft draft' : Draft}
    (h : draft.Reordered draft') :
    ((∃ schema, (draft.load strict).outcome = .ok schema) ↔
        ∃ schema', (draft'.load strict).outcome = .ok schema') ∧
      ∀ schema schema', (draft.load strict).outcome = .ok schema →
        (draft'.load strict).outcome = .ok schema' → settings.GeneratesAlike schema schema' := by
  obtain ⟨hloads, hperm⟩ := load_reordered strict h
  refine ⟨hloads, ?_⟩
  intro schema schema' hschema hschema'
  exact Settings.generatesAlike_of_perm settings (hperm schema schema' hschema hschema')

/-- The definitions of `Schema.albums` in the opposite order. -/
def albumsReversed : Draft :=
  ⟨Schema.albums.toDraft.definitions.map List.reverse⟩

/-- Both orders are loaded, and then treated alike. -/
theorem generatesAlike_albumsReversed :
    Schema.albums.toDraft.Reordered albumsReversed ∧
      ∃ schema', (albumsReversed.load true).outcome = .ok schema' ∧
        (⟨true, 4, 1⟩ : Settings).GeneratesAlike Schema.albums schema' := by
  have hreordered : Schema.albums.toDraft.Reordered albumsReversed :=
    .some (List.reverse_perm _).symm
  have hload : (Schema.albums.toDraft.load true).outcome = .ok Schema.albums := by decide +kernel
  have halike := generatesAlike_of_reordered ⟨true, 4, 1⟩ true hreordered
  obtain ⟨schema', hload'⟩ := halike.1.mp ⟨_, hload⟩
  exact ⟨hreordered, schema', hload', halike.2 _ _ hload hload'⟩

end Draft

end DatasetSchema
