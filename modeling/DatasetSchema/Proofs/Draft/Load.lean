import DatasetSchema.Proofs.Draft.Members

/-!
# Loading a draft

A draft is loaded as a schema exactly if it is loadable: a condition on each definition with a
usable name, distinct names, and under strict settings no unusable name anywhere. The schema then
holds the usable definitions with their usable members, in document order and nothing else.

## Main definitions

* `Draft.Loadable`: the drafts that are accepted;
* `Draft.Describes`: the schema that a draft stands for.

## Main results

* `Draft.outcome_load_eq_ok_iff`: a draft gives the schemas that it describes if it is loadable;
* `Draft.load_succeeds_iff_loadable`: a draft is accepted exactly if it is loadable.
-/

namespace DatasetSchema.Draft

open Attempt
open Document (Value)

variable {strict : Bool} {name : String}

/-! ## One definition -/

/-- The entries of a struct that can be loaded. -/
structure LoadableFields (strict : Bool) (written : List (String × Value)) : Prop where
  /-- Under strict settings all names can be used. -/
  usable : strict → ∀ entry ∈ written, Usable .field entry.1
  /-- No two fields have one name. -/
  nodup : ((usableEntries .field written).map Prod.fst).Nodup
  /-- What is written as the type of a field is one. -/
  types : ∀ entry ∈ usableEntries .field written, ∃ type, WritesType entry.2 type

/-- The classes of a domain that can be loaded. -/
structure LoadableClasses (strict : Bool) (written : List Value) : Prop where
  /-- All entries are scalars. -/
  scalars : ∀ value ∈ written, ∃ name, value.scalarText? = some name
  /-- Under strict settings all names can be used. -/
  usable : strict → ∀ value ∈ written, ∀ name ∈ value.scalarText?, Usable .domainClass name
  /-- No two classes become one enum member. -/
  nodup : ((usableClasses written).map memberName).Nodup

/-- A definition that can be loaded: a struct with fields or a domain with classes. -/
def Definition.Loadable (strict : Bool) (draft : Definition) : Prop :=
  (draft.tag = some "struct" ∧
    ∃ written, draft.fields = some written ∧ LoadableFields strict written) ∨
  (draft.tag = some "class_domain" ∧
    ∃ written, draft.classes = some written ∧ LoadableClasses strict written)

/-- The definition that is described has the usable members, in their order. -/
def Definition.Describes (draft : Definition) : DatasetSchema.Definition → Prop
  | .struct fields =>
    draft.tag = some "struct" ∧ ∃ written, draft.fields = some written ∧
      List.Forall₂ WritesField (usableEntries .field written) fields
  | .classDomain classes =>
    draft.tag = some "class_domain" ∧ ∃ written, draft.classes = some written ∧
      classes = usableClasses written

/-- If everything in a list has a counterpart, there is a list of counterparts. -/
theorem exists_forall₂ {α β : Type} {R : α → β → Prop} {l : List α} (h : ∀ a ∈ l, ∃ b, R a b) :
    ∃ bs, List.Forall₂ R l bs := by
  induction l with
  | nil => exact ⟨[], .nil⟩
  | cons a l ih =>
    obtain ⟨⟨b, hb⟩, hl⟩ := List.forall_mem_cons.mp h
    obtain ⟨bs, hbs⟩ := ih hl
    exact ⟨b :: bs, .cons hb hbs⟩

theorem exists_of_forall₂ {α β : Type} {R : α → β → Prop} {l : List α} {bs : List β}
    (h : List.Forall₂ R l bs) : ∀ a ∈ l, ∃ b, R a b := by
  induction h with
  | nil => exact nofun
  | cons hab _ ih => exact List.forall_mem_cons.mpr ⟨⟨_, hab⟩, ih⟩

theorem ofTag?_eq_some_iff {tag : String} {kind : DefinitionKind} :
    DefinitionKind.ofTag? tag = some kind ↔ tag = kind.tag := by
  rw [DefinitionKind.ofTag?]
  by_cases hstruct : tag = "struct"
  · subst hstruct
    cases kind <;> decide
  by_cases hdomain : tag = "class_domain"
  · subst hdomain
    cases kind <;> decide
  · cases kind <;> simp [DefinitionKind.tag, hstruct, hdomain]

/-- A loadable definition describes one. -/
theorem Definition.Loadable.exists_describes {draft : Definition} (h : draft.Loadable strict) :
    ∃ definition, draft.Describes definition := by
  rcases h with ⟨htag, written, hfields, hload⟩ | ⟨htag, written, hclasses, -⟩
  · have hwrites : ∀ entry ∈ usableEntries .field written, ∃ field, WritesField entry field := by
      intro entry hentry
      obtain ⟨type, htype⟩ := hload.types entry hentry
      exact ⟨⟨entry.1, type⟩, rfl, htype⟩
    obtain ⟨fields, hwritten⟩ := exists_forall₂ hwrites
    exact ⟨.struct fields, htag, written, hfields, hwritten⟩
  · exact ⟨.classDomain (usableClasses written), htag, written, hclasses, rfl⟩

/-- A definition is loaded exactly if it is loadable, as the one that it describes. -/
theorem Definition.outcome_load_eq_ok_iff {draft : Definition}
    {definition : DatasetSchema.Definition} :
    (draft.load strict name).outcome = .ok definition ↔
      draft.Loadable strict ∧ draft.Describes definition := by
  rw [Definition.load]
  constructor
  · intro h
    split at h
    · contradiction
    · next tag htag =>
      split at h
      · contradiction
      · next hkind =>
        rw [ofTag?_eq_some_iff.mp hkind] at htag
        split at h
        · contradiction
        · next written hwritten =>
          obtain ⟨fields, hfields, h⟩ := outcome_bind_eq_ok_iff.mp h
          obtain rfl := outcome_pure_eq_ok_iff.mp h
          obtain ⟨hstrict, hnodup, -, hforall⟩ := outcome_loadFields_eq_ok_iff.mp hfields
          have htypes : ∀ entry ∈ usableEntries .field written,
              ∃ type, WritesType entry.2 type := by
            intro entry hentry
            obtain ⟨field, -, htype⟩ := exists_of_forall₂ hforall entry hentry
            exact ⟨field.type, htype⟩
          exact ⟨.inl ⟨htag, written, hwritten, ⟨hstrict, hnodup, htypes⟩⟩,
            htag, written, hwritten, hforall⟩
      · next hkind =>
        rw [ofTag?_eq_some_iff.mp hkind] at htag
        split at h
        · contradiction
        · next written hwritten =>
          obtain ⟨classes, hclasses, h⟩ := outcome_bind_eq_ok_iff.mp h
          obtain rfl := outcome_pure_eq_ok_iff.mp h
          obtain ⟨hscalars, hstrict, hnodup, -, rfl⟩ := outcome_loadClasses_eq_ok_iff.mp hclasses
          exact ⟨.inr ⟨htag, written, hwritten, ⟨hscalars, hstrict, hnodup⟩⟩,
            htag, written, hwritten, rfl⟩
  · rintro ⟨hload, hdescribes⟩
    cases definition with
    | struct fields =>
      obtain ⟨htag, written, hwritten, hforall⟩ := hdescribes
      -- The tag is the same in both, so the definition is loadable as a struct.
      have hfields : LoadableFields strict written := by
        rcases hload with ⟨-, written', hwritten', hfields⟩ | ⟨htag', -⟩
        · rwa [Option.some.inj (hwritten.symm.trans hwritten')]
        · exact absurd (htag.symm.trans htag') (by decide)
      have hkind : DefinitionKind.ofTag? "struct" = some .struct := ofTag?_eq_some_iff.mpr rfl
      simp only [htag, hkind, hwritten]
      refine outcome_bind_eq_ok_iff.mpr ⟨fields, outcome_loadFields_eq_ok_iff.mpr ?_, rfl⟩
      exact ⟨hfields.usable, hfields.nodup, fun _ _ => List.not_mem_nil, hforall⟩
    | classDomain classes =>
      obtain ⟨htag, written, hwritten, rfl⟩ := hdescribes
      have hclasses : LoadableClasses strict written := by
        rcases hload with ⟨htag', -⟩ | ⟨-, written', hwritten', hclasses⟩
        · exact absurd (htag.symm.trans htag') (by decide)
        · rwa [Option.some.inj (hwritten.symm.trans hwritten')]
      have hkind : DefinitionKind.ofTag? "class_domain" = some .classDomain :=
        ofTag?_eq_some_iff.mpr rfl
      simp only [htag, hkind, hwritten]
      refine outcome_bind_eq_ok_iff.mpr
        ⟨usableClasses written, outcome_loadClasses_eq_ok_iff.mpr ?_, rfl⟩
      exact ⟨hclasses.scalars, hclasses.usable, hclasses.nodup, fun _ _ => List.not_mem_nil, rfl⟩

/-! ## The whole draft -/

/-- The entry of a draft describes the entry of a schema. -/
def DescribesEntry (written : String × Definition) (entry : Entry) : Prop :=
  entry.name = written.1 ∧ written.2.Describes entry.definition

/-- Schemas with the same entries are the same. -/
theorem eq_of_entries_eq {s t : Schema} (h : s.entries = t.entries) : s = t := by
  obtain ⟨entries, _⟩ := s
  obtain ⟨_, _⟩ := t
  obtain rfl : entries = _ := h
  rfl

theorem names_of_insert? {schema result : Schema} {entry : Entry}
    (h : schema.insert? entry = some result) :
    result.names = schema.names ++ [entry.name] := by
  rw [Schema.names, Schema.entries_of_insert? h, List.map_append]
  rfl

/-- Definitions are added to a schema if they are loadable, and their names are
distinct and new to it. -/
theorem outcome_loadInto_eq_ok_iff {schema result : Schema} {written : List (String × Definition)} :
    (loadInto strict schema written).outcome = .ok result ↔
      (strict → ∀ entry ∈ written, Usable .definition entry.1) ∧
        (∀ entry ∈ usableEntries .definition written, entry.2.Loadable strict) ∧
        ((usableEntries .definition written).map Prod.fst).Nodup ∧
        (∀ name ∈ (usableEntries .definition written).map Prod.fst, name ∉ schema.names) ∧
        ∃ added, List.Forall₂ DescribesEntry (usableEntries .definition written) added ∧
          result.entries = schema.entries ++ added := by
  -- The induction is over all schemas: the rest is added to one that has this definition.
  induction written generalizing schema with
  | nil =>
    rw [loadInto, outcome_pure_eq_ok_iff]
    constructor
    · rintro rfl
      exact ⟨fun _ => nofun, nofun, List.nodup_nil, nofun, [], .nil, (List.append_nil _).symm⟩
    · rintro ⟨-, -, -, -, added, hadded, hentries⟩
      obtain rfl := List.forall₂_nil_left_iff.mp hadded
      rw [List.append_nil] at hentries
      exact eq_of_entries_eq hentries.symm
  | cons entry rest ih =>
    obtain ⟨name, draft⟩ := entry
    rw [loadInto]
    by_cases husable : Usable .definition name
    · rw [outcome_acceptName_of_usable husable, usableEntries_cons_of_usable husable, List.map_cons,
        List.nodup_cons, List.forall_mem_cons, List.forall_mem_cons, List.forall_mem_cons]
      constructor
      · intro h
        obtain ⟨definition, hdefinition, h⟩ := outcome_bind_eq_ok_iff.mp h
        obtain ⟨hload, hdescribes⟩ := Definition.outcome_load_eq_ok_iff.mp hdefinition
        split at h
        · contradiction
        · next schema' hinsert =>
          have hname : name ∉ schema.names := by
            rw [← Schema.insert?_eq_none_iff schema ⟨name, definition⟩, hinsert]
            exact nofun
          obtain ⟨_, -, h⟩ := outcome_bind_eq_ok_iff.mp h
          obtain ⟨hstrict, hloads, hnodup, hfresh, added, hadded, hentries⟩ := ih.mp h
          -- The names that are new to the schema after this definition are other names
          -- than its own.
          rw [names_of_insert? hinsert] at hfresh
          rw [Schema.entries_of_insert? hinsert, List.append_assoc] at hentries
          refine ⟨fun hs => ⟨husable, hstrict hs⟩, ⟨hload, hloads⟩, ⟨?_, hnodup⟩, ⟨hname, ?_⟩, ?_⟩
          · intro hmem
            exact hfresh name hmem (List.mem_append_right _ List.mem_cons_self)
          · intro other hother hmem
            exact hfresh other hother (List.mem_append_left _ hmem)
          · exact ⟨⟨name, definition⟩ :: added, .cons ⟨rfl, hdescribes⟩ hadded, hentries⟩
      · rintro ⟨hstrict, ⟨hload, hloads⟩, ⟨hname, hnodup⟩, ⟨hnew, hfresh⟩, added, hadded, hentries⟩
        obtain ⟨⟨_, definition⟩, others, ⟨rfl, hdescribes⟩, hothers, rfl⟩ :=
          List.forall₂_cons_left_iff.mp hadded
        refine outcome_bind_eq_ok_iff.mpr ⟨definition, ?_, ?_⟩
        · exact Definition.outcome_load_eq_ok_iff.mpr ⟨hload, hdescribes⟩
        · split
          · next hinsert =>
            rw [Schema.insert?_eq_none_iff] at hinsert
            exact absurd hinsert hnew
          · next schema' hinsert =>
            refine outcome_bind_eq_ok_iff.mpr
              ⟨(), rfl, ih.mpr ⟨?_, hloads, hnodup, ?_, others, hothers, ?_⟩⟩
            · exact fun hs => (hstrict hs).2
            · intro other hother hmem
              rw [names_of_insert? hinsert] at hmem
              rcases List.mem_append.mp hmem with hmem | hmem
              · exact hfresh other hother hmem
              · obtain rfl := List.mem_singleton.mp hmem
                exact hname hother
            · rw [Schema.entries_of_insert? hinsert, List.append_assoc]
              exact hentries
    · rw [outcome_acceptName_of_not_usable husable, usableEntries_cons_of_not_usable husable, ih,
        List.forall_mem_cons, strict_imp_and_iff husable]
      refine and_congr_right fun hlenient => ?_
      simp [hlenient]

/-- A draft that can be loaded: its definitions with usable names can be, and these names are
distinct. Strict settings want all names to be usable. -/
def Loadable (strict : Bool) (draft : Draft) : Prop :=
  ∃ written, draft.definitions = some written ∧
    (∀ entry ∈ usableEntries .definition written, entry.2.Loadable strict) ∧
    ((usableEntries .definition written).map Prod.fst).Nodup ∧
    (strict → ∀ entry ∈ written, Usable .definition entry.1)

/-- The schema that is described has the definitions with usable names, in their order. -/
def Describes (draft : Draft) (schema : Schema) : Prop :=
  ∃ written, draft.definitions = some written ∧
    List.Forall₂ DescribesEntry (usableEntries .definition written) schema.entries

/-- A loadable draft gives the schema that it describes, and no other draft gives one. -/
theorem outcome_load_eq_ok_iff {draft : Draft} {schema : Schema} :
    (draft.load strict).outcome = .ok schema ↔ draft.Loadable strict ∧ draft.Describes schema := by
  rw [load]
  constructor
  · intro h
    split at h
    · contradiction
    · next written hwritten =>
      obtain ⟨hstrict, hloads, hnodup, -, added, hadded, hentries⟩ :=
        outcome_loadInto_eq_ok_iff.mp h
      obtain rfl : schema.entries = added := hentries
      exact ⟨⟨written, hwritten, hloads, hnodup, hstrict⟩, written, hwritten, hadded⟩
  · rintro ⟨⟨written, hwritten, hloads, hnodup, hstrict⟩, written', hwritten', hentries⟩
    obtain rfl : written = written' := Option.some.inj (hwritten.symm.trans hwritten')
    simp only [hwritten]
    exact outcome_loadInto_eq_ok_iff.mpr
      ⟨hstrict, hloads, hnodup, fun _ _ => List.not_mem_nil, schema.entries, hentries, rfl⟩

theorem map_name_of_describes {written : List (String × Definition)} {entries : List Entry}
    (h : List.Forall₂ DescribesEntry written entries) :
    entries.map Entry.name = written.map Prod.fst := by
  induction h with
  | nil => rfl
  | cons hentry _ ih => rw [List.map_cons, List.map_cons, ih, hentry.1]

/-- A loadable draft describes a schema. -/
theorem Loadable.exists_describes {draft : Draft} (h : draft.Loadable strict) :
    ∃ schema, draft.Describes schema := by
  obtain ⟨written, hwritten, hloads, hnodup, -⟩ := h
  have hdescribes : ∀ entry ∈ usableEntries .definition written,
      ∃ result, DescribesEntry entry result := by
    intro entry hentry
    obtain ⟨definition, hdefinition⟩ := (hloads entry hentry).exists_describes
    exact ⟨⟨entry.1, definition⟩, rfl, hdefinition⟩
  obtain ⟨entries, hentries⟩ := exists_forall₂ hdescribes
  rw [← map_name_of_describes hentries] at hnodup
  exact ⟨⟨entries, hnodup⟩, written, hwritten, hentries⟩

/-- Loading succeeds exactly for the loadable drafts, and then gives the schema that the draft
describes. -/
theorem load_succeeds_iff_loadable (strict : Bool) (draft : Draft) :
    ((∃ schema, (draft.load strict).outcome = .ok schema) ↔ draft.Loadable strict) ∧
      ∀ schema, (draft.load strict).outcome = .ok schema → draft.Describes schema := by
  refine ⟨⟨?_, ?_⟩, ?_⟩
  · rintro ⟨schema, h⟩
    exact (outcome_load_eq_ok_iff.mp h).1
  · intro h
    obtain ⟨schema, hschema⟩ := h.exists_describes
    exact ⟨schema, outcome_load_eq_ok_iff.mpr ⟨h, hschema⟩⟩
  · intro schema h
    exact (outcome_load_eq_ok_iff.mp h).2

end DatasetSchema.Draft
