import DatasetSchema.Proofs.Draft.Load
import DatasetSchema.Proofs.TypeExpr.WhiteSpace

/-!
# Writing a schema as a draft and loading it again

A schema is written as a draft that lists its definitions, types as the expressions that denote them
and classes as texts. The well-formed schemas are those that such a draft gives back, under any
settings and without passing over a name, and loading gives no others.

## Main definitions

* `Schema.toDraft`: the draft that a schema is written as;
* `Schema.WellFormed`: the schemas that can be written and loaded again.

## Main results

* `Draft.not_isSkip_of_loadable`: no name is passed over in a draft that strict settings accept;
* `Draft.wellFormed_of_load`: loading gives well-formed schemas only;
* `Draft.load_toDraft_iff_wellFormed`: a schema is given back exactly if it is well-formed.
-/

namespace DatasetSchema

open Document (Value)

/-! ## Schemas as drafts -/

/-- A definition as it is written in a draft. -/
def Definition.toDraft : Definition → Draft.Definition
  | .struct fields =>
    { tag := some DefinitionKind.struct.tag
      fields := some (fields.map fun field => (field.name, Value.text field.type.render))
      classes := none }
  | .classDomain classes =>
    { tag := some DefinitionKind.classDomain.tag
      fields := none
      classes := some (classes.map Value.text) }

/-- A schema as it is written in a draft. -/
def Schema.toDraft (schema : Schema) : Draft where
  definitions := some (schema.entries.map fun entry => (entry.name, entry.definition.toDraft))

/-! ## Well-formed schemas -/

/-- Fields that a struct can have. -/
structure WellFormedFields (fields : List Field) : Prop where
  /-- Their names are identifiers. -/
  isIdentifier : ∀ field ∈ fields, isIdentifier field.name
  /-- Their names are not reserved. -/
  not_isReservedWord : ∀ field ∈ fields, ¬ isReservedWord field.name
  /-- No two fields have one name. -/
  nodup_names : (fields.map Field.name).Nodup
  /-- The type of a field is read from some text, and its formats have no white space. -/
  exists_ofText : ∀ field ∈ fields, ∃ source, FieldType.ofText source = .ok field.type
  /-- Their formats have no white space. -/
  isSolid : ∀ field ∈ fields, field.type.IsSolid

/-- Classes that a domain can have. -/
structure WellFormedClasses (classes : List String) : Prop where
  /-- Their names are identifiers. -/
  isIdentifier : ∀ name ∈ classes, isIdentifier name
  /-- No two classes become one enum member. -/
  nodup_members : (classes.map memberName).Nodup

/-- A definition that can be written and loaded again. -/
def Definition.WellFormed : Definition → Prop
  | .struct fields => WellFormedFields fields
  | .classDomain classes => WellFormedClasses classes

/-- A schema that can be written and loaded again. That its names are distinct is a
part of every schema. -/
structure Schema.WellFormed (schema : Schema) : Prop where
  isIdentifier : ∀ entry ∈ schema.entries, isIdentifier entry.name
  not_isReservedWord : ∀ entry ∈ schema.entries, ¬ isReservedWord entry.name
  definitions : ∀ entry ∈ schema.entries, entry.definition.WellFormed

/-! ## Notes on names that are passed over -/

/-- The note says that a name is passed over. -/
def Note.IsSkip : Note → Prop
  | .nameSkipped .. => True
  | _ => False

namespace Draft

open Attempt

variable {strict : Bool} {role : NameRole} {owner : Option String} {name definition : String}
  {seen : List String}

theorem acceptName_of_usable (h : Usable role name) :
    acceptName strict role owner name = pure true := by
  rw [acceptName, nameProblem?_eq_none_iff.mpr h]

theorem usableEntries_eq_self {α : Type} {entries : List (String × α)}
    (h : ∀ entry ∈ entries, Usable role entry.1) : usableEntries role entries = entries :=
  List.filter_eq_self.mpr fun entry hentry => decide_eq_true (h entry hentry)

/-- There is nothing to note about fields with usable names. -/
theorem notes_loadFields {written : List (String × Value)}
    (h : ∀ entry ∈ written, Usable .field entry.1) :
    (loadFields strict definition seen written).notes = [] := by
  induction written generalizing seen with
  | nil => rfl
  | cons entry rest ih =>
    obtain ⟨name, written⟩ := entry
    obtain ⟨husable, hrest⟩ := List.forall_mem_cons.mp h
    rw [loadFields, acceptName_of_usable husable]
    refine notes_bind_eq_nil rfl fun taken => ?_
    split
    · split
      · rfl
      · exact notes_bind_eq_nil rfl fun type => notes_bind_eq_nil (ih hrest) fun others => rfl
    · exact ih hrest

/-- There is nothing to note about classes with usable names. -/
theorem notes_loadClasses {written : List Value}
    (h : ∀ value ∈ written, ∀ name ∈ value.scalarText?, Usable .domainClass name) :
    (loadClasses strict definition seen written).notes = [] := by
  induction written generalizing seen with
  | nil => rfl
  | cons value rest ih =>
    obtain ⟨husable, hrest⟩ := List.forall_mem_cons.mp h
    rw [loadClasses]
    split
    · rfl
    · next name hname =>
      rw [acceptName_of_usable (husable name hname)]
      refine notes_bind_eq_nil rfl fun taken => ?_
      split
      · split
        · split <;> rfl
        · exact notes_bind_eq_nil (ih hrest) fun others => rfl
      · exact ih hrest

/-- There is nothing to note inside a definition that strict settings accept. -/
theorem Definition.notes_load {draft : Definition} (h : draft.Loadable true) :
    (draft.load strict name).notes = [] := by
  rw [Definition.load]
  rcases h with ⟨htag, written, hwritten, hfields⟩ | ⟨htag, written, hwritten, hclasses⟩
  · have hkind : DefinitionKind.ofTag? "struct" = some .struct := ofTag?_eq_some_iff.mpr rfl
    simp only [htag, hkind, hwritten]
    exact notes_bind_eq_nil (notes_loadFields (hfields.usable rfl)) fun fields => rfl
  · have hkind : DefinitionKind.ofTag? "class_domain" = some .classDomain :=
      ofTag?_eq_some_iff.mpr rfl
    simp only [htag, hkind, hwritten]
    exact notes_bind_eq_nil (notes_loadClasses (hclasses.usable rfl)) fun classes => rfl

theorem not_isSkip_of_mem_notes_loadInto {schema : Schema} {written : List (String × Definition)}
    (husable : ∀ entry ∈ written, Usable .definition entry.1)
    (hload : ∀ entry ∈ written, entry.2.Loadable true) :
    ∀ note ∈ (loadInto strict schema written).notes, ¬ note.IsSkip := by
  induction written generalizing schema with
  | nil => exact nofun
  | cons entry rest ih =>
    obtain ⟨name, draft⟩ := entry
    obtain ⟨hname, husable⟩ := List.forall_mem_cons.mp husable
    obtain ⟨hdraft, hload⟩ := List.forall_mem_cons.mp hload
    intro note hnote
    rw [loadInto, acceptName_of_usable hname] at hnote
    rcases mem_notes_bind_iff.mp hnote with hnote | ⟨_, ⟨⟩, hnote⟩
    · cases hnote
    rw [if_pos rfl] at hnote
    rcases mem_notes_bind_iff.mp hnote with hnote | ⟨definition, -, hnote⟩
    · rw [Definition.notes_load hdraft] at hnote
      cases hnote
    -- Each definition leaves the one note that it is loaded.
    split at hnote
    · cases hnote
    · rcases mem_notes_bind_iff.mp hnote with hnote | ⟨_, -, hnote⟩
      · obtain rfl := List.mem_singleton.mp hnote
        exact not_false
      · exact ih husable hload note hnote

/-- No name is passed over in a draft that strict settings accept, whatever the settings are. -/
theorem not_isSkip_of_loadable {draft : Draft} (h : draft.Loadable true) :
    ∀ note ∈ (draft.load strict).notes, ¬ note.IsSkip := by
  obtain ⟨written, hwritten, hload, -, husable⟩ := h
  rw [usableEntries_eq_self (husable rfl)] at hload
  simp only [load, hwritten]
  exact not_isSkip_of_mem_notes_loadInto (husable rfl) hload

/-! ## Loading gives well-formed schemas -/

theorem usable_iff {name : String} (hbound : role.isBound) :
    Usable role name ↔ isIdentifier name ∧ ¬ isReservedWord name := by
  simp only [Usable, hbound, true_imp_iff]

theorem usable_domainClass_iff {name : String} : Usable .domainClass name ↔ isIdentifier name := by
  simp [Usable, NameRole.isBound]

/-- What a type is read from holds no white space, so none gets into its formats. -/
theorem WritesType.isSolid {written : Value} {type : FieldType} (h : WritesType written type) :
    type.IsSolid := by
  obtain ⟨text, -, htype⟩ := h
  exact FieldType.isSolid_of_ofText htype (Text.isSolid_stripWhiteSpace text)

/-- Every loaded field comes from an entry with a usable name. -/
theorem exists_entry_of_writes {written : List (String × Value)} {fields : List Field}
    (h : List.Forall₂ WritesField (usableEntries .field written) fields) :
    ∀ field ∈ fields, ∃ entry : String × Value, Usable .field entry.1 ∧
      WritesField entry field := by
  have husable : ∀ entry ∈ usableEntries .field written, Usable .field entry.1 :=
    fun entry hentry => of_decide_eq_true (List.mem_filter.mp hentry).2
  exact exists_of_forall₂ ((List.forall₂_and_left _ _).mpr ⟨husable, h⟩).flip

theorem map_name_of_writes {written : List (String × Value)} {fields : List Field}
    (h : List.Forall₂ WritesField written fields) :
    fields.map Field.name = written.map Prod.fst := by
  induction h with
  | nil => rfl
  | cons hfield _ ih => rw [List.map_cons, List.map_cons, ih, hfield.1]

/-- The definition that a loadable one describes is well-formed. -/
theorem Definition.wellFormed_of_describes {draft : Definition}
    {definition : DatasetSchema.Definition} (hload : draft.Loadable strict)
    (h : draft.Describes definition) : definition.WellFormed := by
  cases definition with
  | struct fields =>
    obtain ⟨htag, written, hwritten, hforall⟩ := h
    -- That no name is given twice is what loading has checked, and not part of the description.
    have hnodup : ((usableEntries .field written).map Prod.fst).Nodup := by
      rcases hload with ⟨-, written', hwritten', hfields⟩ | ⟨htag', -⟩
      · rw [Option.some.inj (hwritten.symm.trans hwritten')]
        exact hfields.nodup
      · exact absurd (htag.symm.trans htag') (by decide)
    have hentries := exists_entry_of_writes hforall
    constructor
    · intro field hfield
      obtain ⟨entry, husable, hname, -⟩ := hentries field hfield
      exact hname ▸ ((usable_iff rfl).mp husable).1
    · intro field hfield
      obtain ⟨entry, husable, hname, -⟩ := hentries field hfield
      exact hname ▸ ((usable_iff rfl).mp husable).2
    · rw [map_name_of_writes hforall]
      exact hnodup
    · intro field hfield
      obtain ⟨_, -, -, text, -, htype⟩ := hentries field hfield
      exact ⟨_, htype⟩
    · intro field hfield
      obtain ⟨_, -, -, htype⟩ := hentries field hfield
      exact htype.isSolid
  | classDomain classes =>
    obtain ⟨htag, written, hwritten, rfl⟩ := h
    have hnodup : ((usableClasses written).map memberName).Nodup := by
      rcases hload with ⟨htag', -⟩ | ⟨-, written', hwritten', hclasses⟩
      · exact absurd (htag.symm.trans htag') (by decide)
      · rw [Option.some.inj (hwritten.symm.trans hwritten')]
        exact hclasses.nodup
    refine ⟨fun name hname => ?_, hnodup⟩
    exact usable_domainClass_iff.mp (of_decide_eq_true (List.mem_filter.mp hname).2)

/-- Loading gives well-formed schemas only. -/
theorem wellFormed_of_load {draft : Draft} {schema : Schema}
    (h : (draft.load strict).outcome = .ok schema) : schema.WellFormed := by
  obtain ⟨⟨written, hwritten, hload, -⟩, written', hwritten', hentries⟩ :=
    outcome_load_eq_ok_iff.mp h
  obtain rfl : written = written' := Option.some.inj (hwritten.symm.trans hwritten')
  -- Every definition of the schema comes from a loadable one with a usable name.
  have hsource : ∀ entry ∈ usableEntries .definition written,
      Usable .definition entry.1 ∧ entry.2.Loadable strict := fun entry hentry =>
    ⟨of_decide_eq_true (List.mem_filter.mp hentry).2, hload entry hentry⟩
  have hdescribed := exists_of_forall₂ ((List.forall₂_and_left _ _).mpr ⟨hsource, hentries⟩).flip
  constructor
  · intro entry hentry
    obtain ⟨_, ⟨husable, -⟩, hname, -⟩ := hdescribed entry hentry
    exact hname ▸ ((usable_iff rfl).mp husable).1
  · intro entry hentry
    obtain ⟨_, ⟨husable, -⟩, hname, -⟩ := hdescribed entry hentry
    exact hname ▸ ((usable_iff rfl).mp husable).2
  · intro entry hentry
    obtain ⟨_, ⟨-, hload⟩, -, hdescribes⟩ := hdescribed entry hentry
    exact Definition.wellFormed_of_describes hload hdescribes

/-! ## Loading what is written -/

/-- The classes of a domain that can be used are its classes, if these are identifiers. -/
theorem usableClasses_map_text {classes : List String} (h : ∀ name ∈ classes, isIdentifier name) :
    usableClasses (classes.map Value.text) = classes := by
  have hscalars : (classes.map Value.text).filterMap Value.scalarText? = classes := by
    rw [List.filterMap_map]
    exact List.filterMap_some
  rw [usableClasses, hscalars, List.filter_eq_self]
  exact fun name hname => decide_eq_true (usable_domainClass_iff.mpr (h name hname))

section Fields

variable {fields : List Field} (h : WellFormedFields fields)
include h

theorem usable_of_mem_toDraft :
    ∀ entry ∈ fields.map fun field => (field.name, Value.text field.type.render),
      Usable .field entry.1 := by
  rw [List.forall_mem_map]
  exact fun field hfield =>
    (usable_iff rfl).mpr ⟨h.isIdentifier field hfield, h.not_isReservedWord field hfield⟩

/-- The type of a field is read back from what is written. -/
theorem writesType_render :
    ∀ field ∈ fields, WritesType (Value.text field.type.render) field.type := by
  intro field hfield
  refine ⟨_, rfl, FieldType.ofText_stripWhiteSpace_render_iff.mpr ?_⟩
  exact ⟨h.exists_ofText field hfield, h.isSolid field hfield⟩

end Fields

/-- A well-formed definition is written as a loadable one. -/
theorem Definition.loadable_toDraft {definition : DatasetSchema.Definition}
    (h : definition.WellFormed) :
    definition.toDraft.Loadable strict := by
  cases definition with
  | struct fields =>
    have husable := usable_of_mem_toDraft h
    refine .inl ⟨rfl, _, rfl, fun _ => husable, ?_, ?_⟩
    · rw [usableEntries_eq_self husable, List.map_map]
      exact h.nodup_names
    · rw [usableEntries_eq_self husable, List.forall_mem_map]
      exact fun field hfield => ⟨field.type, writesType_render h field hfield⟩
  | classDomain classes =>
    refine .inr ⟨rfl, _, rfl, ?_, fun _ => ?_, ?_⟩
    · rw [List.forall_mem_map]
      exact fun name _ => ⟨name, rfl⟩
    · rw [List.forall_mem_map]
      rintro name hname _ ⟨⟩
      exact usable_domainClass_iff.mpr (h.isIdentifier name hname)
    · rw [usableClasses_map_text h.isIdentifier]
      exact h.nodup_members

/-- A well-formed definition is described by what is written for it. -/
theorem Definition.describes_toDraft {definition : DatasetSchema.Definition}
    (h : definition.WellFormed) :
    definition.toDraft.Describes definition := by
  cases definition with
  | struct fields =>
    refine ⟨rfl, _, rfl, ?_⟩
    rw [usableEntries_eq_self (usable_of_mem_toDraft h), List.forall₂_map_left_iff,
      List.forall₂_same]
    exact fun field hfield => ⟨rfl, writesType_render h field hfield⟩
  | classDomain classes => exact ⟨rfl, _, rfl, (usableClasses_map_text h.isIdentifier).symm⟩

section Schema

variable {schema : Schema} (h : schema.WellFormed)
include h

theorem usable_of_mem_schema_toDraft :
    ∀ entry ∈ schema.entries.map fun entry => (entry.name, entry.definition.toDraft),
      Usable .definition entry.1 := by
  rw [List.forall_mem_map]
  exact fun entry hentry =>
    (usable_iff rfl).mpr ⟨h.isIdentifier entry hentry, h.not_isReservedWord entry hentry⟩

/-- A well-formed schema is written as a loadable draft. -/
theorem loadable_toDraft : schema.toDraft.Loadable strict := by
  have husable := usable_of_mem_schema_toDraft h
  refine ⟨_, rfl, ?_, ?_, fun _ => husable⟩
  · rw [usableEntries_eq_self husable, List.forall_mem_map]
    exact fun entry hentry => Definition.loadable_toDraft (h.definitions entry hentry)
  · rw [usableEntries_eq_self husable, List.map_map]
    exact schema.nodup_names

/-- A well-formed schema is described by what is written for it. -/
theorem describes_toDraft : schema.toDraft.Describes schema := by
  refine ⟨_, rfl, ?_⟩
  rw [usableEntries_eq_self (usable_of_mem_schema_toDraft h), List.forall₂_map_left_iff,
    List.forall₂_same]
  exact fun entry hentry => ⟨rfl, Definition.describes_toDraft (h.definitions entry hentry)⟩

end Schema

/-- What is written for a schema is loaded as that schema again, and no name is passed over,
exactly if the schema is well-formed. Loading gives well-formed schemas only, whatever the draft
and the settings are. -/
theorem load_toDraft_iff_wellFormed (strict : Bool) :
    (∀ schema : Schema,
      ((schema.toDraft.load strict).outcome = .ok schema ∧
          ∀ note ∈ (schema.toDraft.load strict).notes, ¬ note.IsSkip) ↔
        schema.WellFormed) ∧
      ∀ (draft : Draft) (schema : Schema),
        (draft.load strict).outcome = .ok schema → schema.WellFormed := by
  refine ⟨fun schema => ⟨?_, ?_⟩, fun draft schema => wellFormed_of_load⟩
  · rintro ⟨h, -⟩
    exact wellFormed_of_load h
  · intro h
    refine ⟨outcome_load_eq_ok_iff.mpr ⟨loadable_toDraft h, describes_toDraft h⟩, ?_⟩
    exact not_isSkip_of_loadable (loadable_toDraft h)

end Draft

end DatasetSchema
