import DatasetSchema.Proofs.Compilation.Phases
import DatasetSchema.Proofs.Text.Uppercase

/-!
# The bare names of a module

The names of a document that stand in a module outside of quotes are the names of classes, of
attributes and enum members, and the references. The loader keeps reserved words out of all but the
last: names of definitions and fields are looked up in the list, and upper case has none of them. A
reference has only to be an identifier. So it can be a reserved word, for which there is no
definition, and all that comes of it is a warning.

## Main definitions

* `Declaration.Module.bareNames`: the names of a document that stand in a module.

## Main results

* `Schema.IsArrangement.forall_bareNames_iff`: they are the names of the schema,
  classes in upper case;
* `Settings.reserved_bareNames_are_references`: reserved words among them are undefined references.
-/

namespace DatasetSchema

namespace Declaration

/-- The names that the body of a class binds. -/
def Class.bodyNames : Class → List String
  | .struct _ attributes => attributes.map Attribute.name
  | .enumeration _ members => members.map Member.name

/-- The names that stand in a class: its own, those that its body binds, and its references. -/
def Class.bareNames (c : Class) : List String :=
  c.name :: (c.bodyNames ++ c.references)

/-- The names that stand in the classes of a module. -/
def Module.bareNames (m : Module) : List String :=
  m.classes.flatMap Class.bareNames

end Declaration

open Declaration

/-- The names that the body of the class for a definition binds. -/
def Definition.bodyNames : Definition → List String
  | .struct fields => fields.map Field.name
  | .classDomain classes => classes.map memberName

theorem Definition.bodyNames_declaration (definition : Definition) (name : String) :
    (definition.declaration name).bodyNames = definition.bodyNames := by
  cases definition <;> simp [declaration, Class.bodyNames, bodyNames]

namespace Schema

variable {schema : Schema} {order : List String}

/-- What holds of all names in a module is what holds of all names in its classes. -/
theorem IsArrangement.forall_bareNames_iff (h : schema.IsArrangement order) {p : String → Prop} :
    (∀ name ∈ (schema.module order).bareNames, p name) ↔
      ∀ entry ∈ schema.entries, p entry.name ∧ (∀ name ∈ entry.definition.bodyNames, p name) ∧
        ∀ reference ∈ entry.definition.references, p reference := by
  have hclasses : ∀ c, c ∈ (schema.module order).classes ↔ c ∈ schema.declarations :=
    fun _ => h.perm_declarations.mem_iff
  simp only [Module.bareNames, List.forall_mem_flatMap, hclasses, declarations, List.forall_mem_map,
    Class.bareNames, List.forall_mem_cons, List.forall_mem_append, Definition.name_declaration,
    Definition.bodyNames_declaration, Definition.references_declaration]

/-- In a well-formed schema, no body binds a reserved word. -/
theorem WellFormed.not_isReservedWord_bodyNames (h : schema.WellFormed) {entry : Entry}
    (hentry : entry ∈ schema.entries) :
    ∀ name ∈ entry.definition.bodyNames, ¬ isReservedWord name := by
  have hdefinition := h.definitions entry hentry
  intro name hname
  cases hkind : entry.definition with
  | struct fields =>
    rw [hkind] at hname hdefinition
    obtain ⟨field, hfield, rfl⟩ := List.mem_map.mp hname
    exact hdefinition.not_isReservedWord field hfield
  | classDomain classes =>
    rw [hkind] at hname
    obtain ⟨c, -, rfl⟩ := List.mem_map.mp hname
    exact not_isReservedWord_memberName c

/-- In a well-formed schema, no definition has a reserved word for its name. -/
theorem WellFormed.notMem_names_of_isReservedWord (h : schema.WellFormed) {name : String}
    (hreserved : isReservedWord name) : name ∉ schema.names := by
  intro hname
  obtain ⟨entry, hentry, rfl⟩ := List.mem_map.mp hname
  exact h.not_isReservedWord entry hentry hreserved

end Schema

namespace Settings

variable {settings : Settings} {source text : String} {schema : Schema}

/-- A reference to no definition is warned of, wherever it stands. -/
theorem undefinedReference_mem_warnings [Document.SyntaxReporter]
    (hparse : (settings.parse source).outcome = .ok schema)
    (hgenerate : (settings.generate schema).outcome = .ok text) {c : Declaration.Class}
    {reference : String} (hc : c ∈ schema.declarations) (hreference : reference ∈ c.references)
    (hundefined : reference ∉ schema.names) :
    .undefinedReference c.name reference ∈ (settings.compile source).warnings := by
  rw [warnings_compile hparse, warnings_generate hgenerate]
  apply List.mem_append_right
  apply List.mem_flatMap.mpr
  refine ⟨c, hc, ?_⟩
  apply List.mem_map_of_mem
  exact List.mem_filter.mpr ⟨hreference, decide_eq_true hundefined⟩

/-- In a generated module no class, attribute or enum member is called by a reserved word. A
reference can be one; it is to no definition, and the class with the reference is warned of. So no
name in a module is a reserved word exactly if there are no such references in the schema. -/
theorem reserved_bareNames_are_references [Document.SyntaxReporter]
    (h : (settings.compile source).outcome = .ok text) :
    ∃ schema order, (settings.parse source).outcome = .ok schema ∧
      schema.emissionOrder = .ok order ∧
      (schema.module order).render settings = text ∧
      (∀ c ∈ (schema.module order).classes, ¬ isReservedWord c.name ∧
        (∀ name ∈ c.bodyNames, ¬ isReservedWord name) ∧
        ∀ reference ∈ c.references, isReservedWord reference → reference ∉ schema.names ∧
          .undefinedReference c.name reference ∈ (settings.compile source).warnings) ∧
      ((∀ name ∈ (schema.module order).bareNames, ¬ isReservedWord name) ↔
        ∀ entry ∈ schema.entries, ∀ reference ∈ entry.definition.references,
          ¬ isReservedWord reference) := by
  obtain ⟨schema, hparse, hgenerate⟩ := outcome_compile_eq_ok_iff.mp h
  obtain ⟨order, horder, htext⟩ := outcome_generate_eq_ok_iff.mp hgenerate
  have harrangement := Schema.isArrangement_of_emissionOrder horder
  have hschema := wellFormed_of_parse hparse
  refine ⟨schema, order, hparse, horder, htext, ?_, ?_⟩
  · intro c hc
    have hdeclared : c ∈ schema.declarations := harrangement.perm_declarations.subset hc
    obtain ⟨entry, hentry, rfl⟩ := List.mem_map.mp hdeclared
    refine ⟨?_, ?_, ?_⟩
    · rw [Definition.name_declaration]
      exact hschema.not_isReservedWord entry hentry
    · rw [Definition.bodyNames_declaration]
      exact hschema.not_isReservedWord_bodyNames hentry
    · intro reference hreference hreserved
      -- No definition has a reserved word for its name, so the reference is to none of them.
      have hundefined := hschema.notMem_names_of_isReservedWord hreserved
      exact ⟨hundefined,
        undefinedReference_mem_warnings hparse hgenerate hdeclared hreference hundefined⟩
  · rw [harrangement.forall_bareNames_iff]
    constructor
    · exact fun hall entry hentry => (hall entry hentry).2.2
    · exact fun hall entry hentry => ⟨hschema.not_isReservedWord entry hentry,
        hschema.not_isReservedWord_bodyNames hentry, hall entry hentry⟩

/-- A document with a reference to a reserved word. -/
def classLabelText : String :=
  "defs:\n  Car:\n    $def: struct\n    $fields:\n      kind: Label[class]\n"

/-- What the document says. -/
def classLabel : Schema :=
  ⟨[⟨"Car", .struct [⟨"kind", .label "class"⟩]⟩], by decide⟩

/-- The module for the document. -/
def classLabelModule : String :=
  "# Generated by the dsdl parser. DO NOT EDIT!\n\n" ++
    "from dsdl.types import *\nfrom enum import Enum\n\n\n" ++
    "class Car(Struct):\n    kind = LabelField(dom=class)\n"

theorem outcome_parse_classLabelText :
    (parse ⟨true, 4, 1⟩ classLabelText).outcome = .ok classLabel := by
  decide +kernel

theorem emissionOrder_classLabel : classLabel.emissionOrder = .ok ["Car"] :=
  Schema.emissionOrder_graph_eq_ok_of_iterate 1 (by decide +kernel) (by decide) (by decide)

theorem render_classLabel : (classLabel.module ["Car"]).render ⟨true, 4, 1⟩ = classLabelModule := by
  decide +kernel

theorem outcome_compile_classLabelText :
    (compile ⟨true, 4, 1⟩ classLabelText).outcome = .ok classLabelModule :=
  outcome_compile_eq_ok_iff.mpr ⟨classLabel, outcome_parse_classLabelText,
    outcome_generate_eq_ok_iff.mpr ⟨["Car"], emissionOrder_classLabel, render_classLabel⟩⟩

/-- The reserved word is a reference, and the only name of this kind. -/
theorem reserved_bareNames_classLabel :
    (compile ⟨true, 4, 1⟩ classLabelText).outcome = .ok classLabelModule ∧
      ∃ schema order, (parse ⟨true, 4, 1⟩ classLabelText).outcome = .ok schema ∧
        schema.emissionOrder = .ok order ∧
        (schema.module order).render ⟨true, 4, 1⟩ = classLabelModule ∧
        (∀ c ∈ (schema.module order).classes, ¬ isReservedWord c.name ∧
          (∀ name ∈ c.bodyNames, ¬ isReservedWord name) ∧
          ∀ reference ∈ c.references, isReservedWord reference → reference ∉ schema.names ∧
            .undefinedReference c.name reference ∈ (compile ⟨true, 4, 1⟩ classLabelText).warnings) ∧
        ((∀ name ∈ (schema.module order).bareNames, ¬ isReservedWord name) ↔
          ∀ entry ∈ schema.entries, ∀ reference ∈ entry.definition.references,
            ¬ isReservedWord reference) :=
  ⟨outcome_compile_classLabelText, reserved_bareNames_are_references outcome_compile_classLabelText⟩

/-- The document is accepted, also under strict settings, and the reserved word
stands in the module. -/
theorem not_forall_not_reserved_classLabel :
    (parse ⟨true, 4, 1⟩ classLabelText).outcome = .ok classLabel ∧
      classLabel.emissionOrder = .ok ["Car"] ∧
        (compile ⟨true, 4, 1⟩ classLabelText).outcome =
            .ok ((classLabel.module ["Car"]).render ⟨true, 4, 1⟩) ∧
          ¬ ∀ name ∈ (classLabel.module ["Car"]).bareNames, ¬ isReservedWord name := by
  have hnames : (classLabel.module ["Car"]).bareNames = ["Car", "kind", "class"] := by
    decide +kernel
  rw [render_classLabel, hnames]
  exact ⟨outcome_parse_classLabelText, emissionOrder_classLabel, outcome_compile_classLabelText,
    fun hall => hall "class" (by simp) (by decide)⟩

end Settings

end DatasetSchema
