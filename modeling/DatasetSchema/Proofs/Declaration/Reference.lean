import DatasetSchema.Proofs.Attempt
import DatasetSchema.Proofs.Declaration.Scope

/-!
# References in a module

A reference stands in the constructor of an attribute, at some depth of lists. Wherever it stands,
the class that it is for is declared above it, or there is no definition for it and a warning says
so. The warnings of a run are these and no others: one for every occurrence, in the order of the
definitions and their fields, although the graph has each reference only once.

## Main definitions

* `Declaration.Class.references`: the references in the constructors of a class;
* `Declaration.undefinedReferences`: the warnings that references call for.

## Main results

* `Settings.warnings_generate`: the warnings of a run;
* `Settings.generate_declares_or_warns`: every reference in a module is declared before or warned
  of.
-/

namespace DatasetSchema

/-- The warning for a reference is known by its message and the names that it carries. -/
theorem Note.eq_undefinedReference_iff {note : Note} {name reference : String} :
    note = .undefinedReference name reference ↔
      note.message = "Reference to an undefined definition" ∧
        note.details = [("definition", name), ("reference", reference)] := by
  constructor
  · rintro rfl
    exact ⟨rfl, rfl⟩
  · rintro ⟨-, hdetails⟩
    cases note <;> simp [details] at hdetails ⊢
    exact hdetails

namespace Declaration

/-- The name that a use refers to, if it is a reference. -/
def Use.reference? : Use → Option String
  | .runtime _ => none
  | .reference name => some name

/-- The references in the constructors of a class, in the order in which they are written. -/
def Class.references : Class → List String
  | .struct _ attributes => attributes.flatMap fun a => a.value.uses.filterMap Use.reference?
  | .enumeration _ _ => []

/-- The warnings for the references to none of the defined names: one for every occurrence, with the
name of the class that it stands in. -/
def undefinedReferences (defined : List String) (classes : List Class) : List Note :=
  classes.flatMap fun c =>
    (c.references.filter fun reference => reference ∉ defined).map (.undefinedReference c.name)

/-- Other classes do not add to the warnings with the name of a class. -/
theorem count_undefinedReferences_eq_zero {classes : List Class} {name : String}
    (defined : List String) (reference : String) (h : name ∉ classes.map Class.name) :
    (undefinedReferences defined classes).count (.undefinedReference name reference) = 0 := by
  apply List.count_eq_zero_of_not_mem
  intro hwarning
  obtain ⟨c, hc, hwarning⟩ := List.mem_flatMap.mp hwarning
  obtain ⟨_, -, heq⟩ := List.mem_map.mp hwarning
  obtain ⟨hname, -⟩ := Note.undefinedReference.inj heq
  exact h (hname ▸ List.mem_map_of_mem hc)

/-- If classes have distinct names, there are as many warnings as occurrences of a
reference in a class. -/
theorem count_undefinedReferences {defined : List String} {classes : List Class} {c : Class}
    {reference : String} (hnodup : (classes.map Class.name).Nodup) (hc : c ∈ classes)
    (hreference : reference ∉ defined) :
    (undefinedReferences defined classes).count (.undefinedReference c.name reference) =
      c.references.count reference := by
  obtain ⟨before, after, rfl⟩ := List.append_of_mem hc
  rw [List.map_append, List.map_cons, List.nodup_append, List.nodup_cons] at hnodup
  obtain ⟨-, ⟨hafter, -⟩, hbefore⟩ := hnodup
  have hbefore' : c.name ∉ before.map Class.name := fun h => hbefore _ h _ List.mem_cons_self rfl
  have hinjective : Function.Injective (Note.undefinedReference c.name) := fun _ _ h =>
    (Note.undefinedReference.inj h).2
  have hbefore₀ := count_undefinedReferences_eq_zero defined reference hbefore'
  have hafter₀ := count_undefinedReferences_eq_zero defined reference hafter
  rw [undefinedReferences] at hbefore₀ hafter₀ ⊢
  rw [List.flatMap_append, List.flatMap_cons, List.count_append, List.count_append, hbefore₀,
    hafter₀, List.count_map_of_injective _ _ hinjective,
    List.count_filter (by simpa using hreference)]
  omega

end Declaration

open Declaration

/-! ## The references of a definition -/

theorem Definition.name_declaration (definition : Definition) (name : String) :
    (definition.declaration name).name = name := by
  cases definition <;> rfl

/-- The class for a definition refers to what the definition refers to, occurrence by occurrence. -/
theorem Definition.references_declaration (definition : Definition) (name : String) :
    (definition.declaration name).references = definition.references := by
  have htype : ∀ type : FieldType, type.constructor.uses.filterMap Use.reference? =
      type.references := by
    intro type
    have hruntime : Use.reference? ∘ Use.runtime = fun _ => none := rfl
    have hreference : Use.reference? ∘ Use.reference = some := rfl
    rw [FieldType.uses_constructor, List.filterMap_append, List.filterMap_map, List.filterMap_map,
      hruntime, hreference, List.filterMap_some]
    simp
  cases definition with
  | struct fields => simp [declaration, Class.references, references, List.flatMap_map, htype]
  | classDomain classes => rfl

namespace Schema

variable {schema : Schema} {order : List String}

/-- The classes for the definitions of a schema, in the order of declaration. -/
def declarations (schema : Schema) : List Declaration.Class :=
  schema.entries.map fun entry => entry.definition.declaration entry.name

theorem map_name_declarations (schema : Schema) :
    schema.declarations.map Class.name = schema.names := by
  simp [declarations, names, Definition.name_declaration, Function.comp_def]

/-- A module has the classes for all definitions. -/
theorem IsArrangement.perm_declarations (h : schema.IsArrangement order) :
    (schema.module order).classes.Perm schema.declarations :=
  (perm_entriesOf h.perm).map _

/-- In a module, a reference to a definition comes after the class for it. -/
theorem IsArrangement.declared_before (h : schema.IsArrangement order)
    {before after : List Declaration.Class} {c : Declaration.Class}
    (heq : (schema.module order).classes = before ++ c :: after)
    {reference : String} (href : reference ∈ c.references) (hdefined : reference ∈ schema.names) :
    reference ∈ before.map Class.name := by
  rw [module] at heq
  obtain ⟨before', rest, hentries, rfl, hrest⟩ := List.map_eq_append_iff.mp heq
  obtain ⟨entry, after', rfl, rfl, -⟩ := List.map_eq_cons_iff.mp hrest
  rw [Definition.references_declaration] at href
  have hbefore := h.mem_before hentries href hdefined
  simpa [Definition.name_declaration, Function.comp_def] using hbefore

/-! ## The warnings of a run -/

/-- When references are collected, those to names without a definition are warned of. -/
theorem warnings_noteReferences {ε : Type} (schema : Schema) :
    (schema.noteReferences : Attempt ε Unit).warnings =
      undefinedReferences schema.names schema.declarations := by
  -- A reference to a definition leaves a note too, but that is no warning.
  have hnotes : ∀ (name : String) (references : List String),
      (references.map fun reference =>
          if schema.contains reference then Note.edgeAdded reference name
          else .undefinedReference name reference).filter (fun note => note.level = .warn) =
        (references.filter fun reference => reference ∉ schema.names).map
          (.undefinedReference name) := by
    intro name references
    induction references with
    | nil => rfl
    | cons reference references ih =>
      by_cases h : reference ∈ schema.names <;>
        simp [contains, Note.level, h] at ih ⊢ <;> exact ih
  rw [Attempt.warnings, noteReferences, List.filter_append, referenceNotes, List.filter_flatMap]
  simp only [hnotes]
  simp [undefinedReferences, declarations, List.flatMap_map, Definition.references_declaration,
    Definition.name_declaration, Note.level]

theorem outcome_noteEmissionOrder (schema : Schema) :
    schema.noteEmissionOrder.outcome = schema.emissionOrder := by
  rw [noteEmissionOrder, Attempt.bind_of_ok rfl]
  cases schema.emissionOrder with
  | ok order => rw [Attempt.bind_of_ok rfl]; rfl
  | error diagnostics => rw [Attempt.bind_of_error rfl]

theorem warnings_noteEmissionOrder (h : schema.emissionOrder = .ok order) :
    schema.noteEmissionOrder.warnings = undefinedReferences schema.names schema.declarations := by
  have horder : (Attempt.ofExcept schema.emissionOrder).outcome = .ok order := h
  rw [noteEmissionOrder, Attempt.warnings_bind_of_ok rfl, Attempt.warnings_bind_of_ok horder,
    Attempt.warnings_bind_of_ok rfl, warnings_noteReferences]
  simp [Note.level]

theorem warnings_noteModule {ε : Type} (schema : Schema) (order : List String) :
    (schema.noteModule order : Attempt ε Module).warnings = [] := by
  simp [Attempt.warnings, noteModule, loweringNotes, Note.level]

end Schema

namespace Settings

variable {settings : Settings} {schema : Schema} {text : String}

/-- The warnings of a run that gives a module are those for references without a definition. -/
theorem warnings_generate (h : (settings.generate schema).outcome = .ok text) :
    (settings.generate schema).warnings = undefinedReferences schema.names schema.declarations := by
  obtain ⟨order, horder, -⟩ := outcome_generate_eq_ok_iff.mp h
  have hnoted : (schema.noteEmissionOrder.mapError Failure.graph).outcome = .ok order := by
    rw [Attempt.mapError, Schema.outcome_noteEmissionOrder, horder]
    rfl
  rw [generate, Attempt.warnings_bind_of_ok rfl, Attempt.warnings_bind_of_ok hnoted,
    Attempt.warnings_bind_of_ok rfl, Attempt.warnings_bind_of_ok rfl,
    Attempt.warnings_bind_of_ok rfl, Attempt.warnings_bind_of_ok rfl]
  simp [Note.level, Schema.warnings_noteModule, Schema.warnings_noteEmissionOrder horder]

/-- A generated module is written for classes in an order of emission. Every reference in a class is
to a class declared before it, or to a name without a definition; then there are as many warnings
with the name of the class and the reference as there are occurrences. All warnings of the run are
for such references, one for each, in the order of the definitions and of the fields in them. -/
theorem generate_declares_or_warns (h : (settings.generate schema).outcome = .ok text) :
    ∃ order, schema.emissionOrder = .ok order ∧ (schema.module order).render settings = text ∧
      (schema.module order).classes.Perm schema.declarations ∧
      (∀ before c after, (schema.module order).classes = before ++ c :: after →
        ∀ reference ∈ c.references,
          reference ∈ before.map Class.name ∨
            reference ∉ schema.names ∧
              ((settings.generate schema).warnings.countP fun note =>
                  note.message = "Reference to an undefined definition" ∧
                    note.details = [("definition", c.name), ("reference", reference)]) =
                c.references.count reference) ∧
      (settings.generate schema).warnings =
        undefinedReferences schema.names schema.declarations := by
  obtain ⟨order, horder, htext⟩ := outcome_generate_eq_ok_iff.mp h
  have harrangement := Schema.isArrangement_of_emissionOrder horder
  have hwarnings := warnings_generate h
  refine ⟨order, horder, htext, harrangement.perm_declarations, ?_, hwarnings⟩
  intro before c after heq reference href
  by_cases hdefined : reference ∈ schema.names
  · exact .inl (harrangement.declared_before heq href hdefined)
  · right
    have hc : c ∈ schema.declarations := by
      apply harrangement.perm_declarations.subset
      simp [heq]
    -- Only this class has the name, so all warnings with the name are for its references.
    have hnodup : (schema.declarations.map Class.name).Nodup := by
      rw [Schema.map_name_declarations]
      exact schema.nodup_names
    have hcount := count_undefinedReferences hnodup hc hdefined
    rw [← hwarnings, List.count_eq_countP] at hcount
    simp only [beq_eq_decide, Note.eq_undefinedReference_iff] at hcount
    exact ⟨hdefined, hcount⟩

/-- A struct with references to a later class domain, at two depths, and twice to nothing. -/
def visits : Schema :=
  ⟨[⟨"Visit", .struct
      [⟨"place", .label "Place"⟩, ⟨"guests", .list (.label "Guest") none⟩,
        ⟨"route", .list (.list (.label "Place") none) (some true)⟩, ⟨"host", .label "Guest"⟩]⟩,
    ⟨"Place", .classDomain ["home"]⟩], by decide⟩

/-- The class domain is declared before the struct, and the two other references are warned of. -/
theorem generate_visits :
    ∃ text, ((⟨true, 4, 1⟩ : Settings).generate visits).outcome = .ok text ∧
      ∃ order, visits.emissionOrder = .ok order ∧ (visits.module order).render ⟨true, 4, 1⟩ = text ∧
        (visits.module order).classes.Perm visits.declarations ∧
        (∀ before c after, (visits.module order).classes = before ++ c :: after →
          ∀ reference ∈ c.references,
            reference ∈ before.map Class.name ∨
              reference ∉ visits.names ∧
                (((⟨true, 4, 1⟩ : Settings).generate visits).warnings.countP fun note =>
                    note.message = "Reference to an undefined definition" ∧
                      note.details = [("definition", c.name), ("reference", reference)]) =
                  c.references.count reference) ∧
        ((⟨true, 4, 1⟩ : Settings).generate visits).warnings =
          [.undefinedReference "Visit" "Guest", .undefinedReference "Visit" "Guest"] := by
  have horder : visits.emissionOrder = .ok ["Place", "Visit"] :=
    Schema.emissionOrder_graph_eq_ok_of_iterate 4 (by decide +kernel) (by decide) (by decide)
  have hgenerate : ((⟨true, 4, 1⟩ : Settings).generate visits).outcome =
      .ok ((visits.module ["Place", "Visit"]).render ⟨true, 4, 1⟩) :=
    outcome_generate_eq_ok_iff.mpr ⟨_, horder, rfl⟩
  have hwarnings : undefinedReferences visits.names visits.declarations =
      [.undefinedReference "Visit" "Guest", .undefinedReference "Visit" "Guest"] := by
    decide +kernel
  rw [← hwarnings]
  exact ⟨_, hgenerate, generate_declares_or_warns hgenerate⟩

end Settings

end DatasetSchema
