import DatasetSchema.Compilation.Basic
import DatasetSchema.Proofs.Declaration.Line
import DatasetSchema.Proofs.Dependency.EmissionOrder

/-!
# What a module keeps of a schema

All that a definition says is in the lines of its class: the first line tells its name and
what it is, and each line of the body a field with its type, or a class. The order of
declaration gives way to the order of emission. So schemas with the same module have the same
definitions, under the same names.

## Main results

* `Declaration.Class.eq_of_lines_eq`: what the lines of a class tell;
* `Definition.eq_of_declaration_eq`: a definition is known from its class;
* `Schema.perm_entriesOf`: a module declares every definition once;
* `Settings.perm_of_generate_eq`: schemas with the same module differ in the order of declaration
  only.
-/

namespace DatasetSchema

/-- A map that tells the items of lists apart tells the lists apart. -/
theorem eq_of_map_eq {α β : Type} {f : α → β} {p : α → Prop}
    (hf : ∀ a b, p a → p b → f a = f b → a = b) {l l' : List α} (hl : ∀ a ∈ l, p a)
    (hl' : ∀ a ∈ l', p a) (h : l.map f = l'.map f) : l = l' := by
  induction l generalizing l' with
  | nil => exact (List.map_eq_nil_iff.mp h.symm).symm
  | cons a l ih =>
    cases l' with
    | nil => exact absurd h (by simp)
    | cons b l' =>
      obtain ⟨ha, hl⟩ := List.forall_mem_cons.mp hl
      obtain ⟨hb, hl'⟩ := List.forall_mem_cons.mp hl'
      obtain ⟨hab, hrest⟩ := List.cons.inj h
      rw [hf a b ha hb hab, ih hl hl' hrest]

/-! ## What the lines of a class tell -/

namespace Declaration

variable {c c' : Class} {width : Nat}

/-- A name without spaces ends where the equals sign with its spaces starts. -/
theorem assignment_inj {name name' value value' : String} (hname : ' ' ∉ name.toList)
    (hname' : ' ' ∉ name'.toList) (h : name ++ " = " ++ value = name' ++ " = " ++ value') :
    name = name' ∧ value = value' := by
  have hchars : name.toList ++ ' ' :: '=' :: ' ' :: value.toList =
      name'.toList ++ ' ' :: '=' :: ' ' :: value'.toList := by
    simpa using congrArg String.toList h
  obtain ⟨hnames, hrest⟩ := append_cons_inj_of_notMem hname hname' hchars
  simp only [List.cons.injEq, true_and] at hrest
  exact ⟨String.toList_inj.mp hnames, String.toList_inj.mp hrest⟩

/-- An assignment is not the body `pass` of a class without assignments. -/
theorem not_isAssignment_pass : ¬ IsAssignment "pass" := by
  rintro ⟨name, value, heq, -⟩
  have hspace : ' ' ∈ (name ++ " = " ++ value).toList := by simp
  rw [← heq] at hspace
  exact absurd hspace (by decide)

theorem Class.eq_of_header_eq (hname : isIdentifier c.name) (hname' : isIdentifier c'.name)
    (h : c.header = c'.header) : c.name = c'.name ∧ c.base = c'.base := by
  have hparenthesis : isNameChar '(' = false := isNameChar_punctuation (by decide)
  rw [header, header, List.append_cancel_left_eq] at h
  obtain ⟨hnames, hrest⟩ := append_cons_inj_of_notMem
    ((isName_of_isIdentifier hname).notMem hparenthesis)
    ((isName_of_isIdentifier hname').notMem hparenthesis) h
  exact ⟨String.toList_inj.mp hnames, String.toList_inj.mp (List.append_cancel_right hrest)⟩

theorem Class.eq_of_bodyLines_eq (hbody : ∀ line ∈ c.body, IsAssignment line)
    (hbody' : ∀ line ∈ c'.body, IsAssignment line) (h : c.bodyLines width = c'.bodyLines width) :
    c.body = c'.body := by
  have hindent : Function.Injective fun line : String => List.replicate width ' ' ++ line.toList :=
    fun a b hab => String.toList_inj.mp (List.append_cancel_left hab)
  have hlines := List.map_injective_iff.mpr hindent h
  split at hlines <;> split at hlines
  · next hnil hnil' => rw [List.isEmpty_iff.mp hnil, List.isEmpty_iff.mp hnil']
  · have hpass : "pass" ∈ c'.body := hlines ▸ List.mem_singleton_self _
    exact absurd (hbody' _ hpass) not_isAssignment_pass
  · have hpass : "pass" ∈ c.body := hlines ▸ List.mem_singleton_self _
    exact absurd (hbody _ hpass) not_isAssignment_pass
  · exact hlines

/-- The lines of a class tell its name, what it extends and what is assigned in its body. -/
theorem Class.eq_of_lines_eq (hname : isIdentifier c.name) (hname' : isIdentifier c'.name)
    (hbody : ∀ line ∈ c.body, IsAssignment line) (hbody' : ∀ line ∈ c'.body, IsAssignment line)
    (h : c.lines width = c'.lines width) :
    c.name = c'.name ∧ c.base = c'.base ∧ c.body = c'.body := by
  obtain ⟨hheader, hlines⟩ := List.cons.inj h
  obtain ⟨hnames, hbases⟩ := eq_of_header_eq hname hname' hheader
  exact ⟨hnames, hbases, eq_of_bodyLines_eq hbody hbody' hlines⟩

end Declaration

/-! ## What a class tells of its definition -/

open Declaration

section Fields

variable {fields : List Field} (h : WellFormedFields fields)
include h

theorem WellFormedFields.isWritable : ∀ field ∈ fields, field.type.IsWritable := by
  intro field hfield
  obtain ⟨source, hsource⟩ := h.exists_ofText field hfield
  rw [FieldType.ofText_eq_ok_iff_denotedBy, FieldType.denotedBy_eq_ok_iff] at hsource
  exact hsource.2.isWritable

end Fields

namespace Definition

variable {name name' : String} {definition definition' : Definition}

/-- All lines in the body of a class are assignments to names without blanks. -/
theorem isAssignment_body (h : definition.WellFormed) :
    ∀ line ∈ (definition.declaration name).body, IsAssignment line := by
  cases definition with
  | struct fields =>
    rw [declaration, Class.body, List.map_map, List.forall_mem_map]
    intro field hfield
    have hname := isName_of_isIdentifier (h.isIdentifier field hfield)
    exact ⟨_, _, rfl, hname.notMem (isNameChar_punctuation (by decide)),
      hname.notMem (isNameChar_punctuation (by decide)),
      FieldType.newline_notMem_render_constructor (h.isWritable field hfield)⟩
  | classDomain classes =>
    rw [declaration, Class.body, List.map_map, List.forall_mem_map]
    intro c hc
    have hidentifier := h.isIdentifier c hc
    exact ⟨_, _, rfl, notMem_memberName hidentifier (.inl rfl),
      notMem_memberName hidentifier (.inr rfl), newline_notMem_literal c⟩

theorem isReadable_declaration {width : Nat} (hname : isIdentifier name)
    (h : definition.WellFormed) :
    (definition.declaration name).IsReadable width := by
  refine Class.isReadable_of_isAssignment ?_ (isAssignment_body h)
  cases definition <;> exact hname

/-- A field is known from its line. -/
theorem eq_of_fieldLine_eq {field field' : Field}
    (h : isIdentifier field.name ∧ field.type.IsWritable)
    (h' : isIdentifier field'.name ∧ field'.type.IsWritable)
    (heq : field.name ++ " = " ++ field.type.constructor.render =
      field'.name ++ " = " ++ field'.type.constructor.render) : field = field' := by
  have hspace : isNameChar ' ' = false := isNameChar_punctuation (by decide)
  obtain ⟨hname, hvalue⟩ := assignment_inj ((isName_of_isIdentifier h.1).notMem hspace)
    ((isName_of_isIdentifier h'.1).notMem hspace) heq
  have hchars : field.type.constructor.render.toList ++ [] =
      field'.type.constructor.render.toList ++ [] := by rw [hvalue]
  obtain ⟨htype, -⟩ := FieldType.render_constructor_append_inj h.2 h'.2 hchars
  cases field
  cases field'
  obtain rfl := hname
  obtain rfl := htype
  rfl

/-- A class is known from its line, for it stands there as a text. -/
theorem eq_of_memberLine_eq {c c' : String} (h : isIdentifier c) (h' : isIdentifier c')
    (heq : memberName c ++ " = " ++ literal c = memberName c' ++ " = " ++ literal c') : c = c' := by
  obtain ⟨-, hvalue⟩ :=
    assignment_inj (notMem_memberName h (.inl rfl)) (notMem_memberName h' (.inl rfl)) heq
  have hchars : (literal c).toList ++ [] = (literal c').toList ++ [] := by rw [hvalue]
  exact (literal_append_inj hchars).1

/-- A definition is known from what its class extends and from the body. -/
theorem eq_of_declaration_eq (h : definition.WellFormed) (h' : definition'.WellFormed)
    (hbase : (definition.declaration name).base = (definition'.declaration name').base)
    (hbody : (definition.declaration name).body = (definition'.declaration name').body) :
    definition = definition' := by
  cases definition with
  | struct fields =>
    cases definition' with
    | classDomain classes' => exact absurd hbase (by simp [declaration, Class.base])
    | struct fields' =>
      simp only [declaration, Class.body, List.map_map] at hbody
      exact congrArg struct (eq_of_map_eq (fun _ _ => eq_of_fieldLine_eq)
        (fun field hfield => ⟨h.isIdentifier field hfield, h.isWritable field hfield⟩)
        (fun field hfield => ⟨h'.isIdentifier field hfield, h'.isWritable field hfield⟩) hbody)
  | classDomain classes =>
    cases definition' with
    | struct fields' => exact absurd hbase (by simp [declaration, Class.base])
    | classDomain classes' =>
      simp only [declaration, Class.body, List.map_map] at hbody
      exact congrArg classDomain
        (eq_of_map_eq (fun _ _ => eq_of_memberLine_eq) h.isIdentifier h'.isIdentifier hbody)

end Definition

/-- An entry with a name and a definition that are loaded. -/
structure Entry.WellFormed (entry : Entry) : Prop where
  isIdentifier : isIdentifier entry.name
  definition : entry.definition.WellFormed

/-- An entry is known from the lines of its class. -/
theorem Entry.eq_of_lines_eq {entry entry' : Entry} {width : Nat} (h : entry.WellFormed)
    (h' : entry'.WellFormed) (heq : (entry.definition.declaration entry.name).lines width =
      (entry'.definition.declaration entry'.name).lines width) : entry = entry' := by
  have hname : ∀ entry : Entry, (entry.definition.declaration entry.name).name = entry.name := by
    rintro ⟨name, _ | _⟩ <;> rfl
  obtain ⟨hnames, hbase, hbody⟩ := Class.eq_of_lines_eq ((hname entry).symm ▸ h.isIdentifier)
    ((hname entry').symm ▸ h'.isIdentifier) (Definition.isAssignment_body h.definition)
    (Definition.isAssignment_body h'.definition) heq
  have hdefinition := Definition.eq_of_declaration_eq h.definition h'.definition hbase hbody
  rw [hname, hname] at hnames
  cases entry
  cases entry'
  obtain rfl := hnames
  obtain rfl := hdefinition
  rfl

namespace Schema

variable {schema schema' : Schema} {name : String} {definition : Definition}
  {order order' : List String} {settings : Settings}

/-! ## The definitions in a module -/

/-- Schemas that differ in the order of declaration define the same. -/
theorem get?_eq_of_perm (h : schema.entries.Perm schema'.entries) (name : String) :
    schema.get? name = schema'.get? name := by
  refine Option.ext fun definition => ?_
  rw [get?_eq_some_iff, get?_eq_some_iff, h.mem_iff]

theorem entriesOf_names (schema : Schema) : schema.entriesOf schema.names = schema.entries := by
  have hentry : ∀ entry ∈ schema.entries,
      (schema.get? entry.name).map (fun definition => (⟨entry.name, definition⟩ : Entry)) =
        some entry := by
    intro entry hentry
    rw [get?_eq_some_iff.mpr hentry, Option.map_some]
  rw [entriesOf, names, List.filterMap_map]
  exact (List.filterMap_congr hentry).trans List.filterMap_some

/-- A module declares every definition once if the names are in some order. -/
theorem perm_entriesOf (h : order.Perm schema.names) :
    (schema.entriesOf order).Perm schema.entries := by
  have hperm := h.filterMap fun name => (schema.get? name).map fun definition =>
    (⟨name, definition⟩ : Entry)
  exact hperm.trans (entriesOf_names schema ▸ List.Perm.refl _)

theorem WellFormed.entry (h : schema.WellFormed) : ∀ entry ∈ schema.entries, entry.WellFormed :=
  fun entry hentry => ⟨h.isIdentifier entry hentry, h.definitions entry hentry⟩

/-- The definitions in a module are known from its text. -/
theorem entriesOf_eq_of_render_eq (h : ∀ entry ∈ schema.entriesOf order, entry.WellFormed)
    (h' : ∀ entry ∈ schema'.entriesOf order', entry.WellFormed)
    (heq : (schema.module order).render settings = (schema'.module order').render settings) :
    schema.entriesOf order = schema'.entriesOf order' := by
  have hclasses : renderClasses settings (schema.module order).classes =
      renderClasses settings (schema'.module order').classes := by
    have hchars := congrArg String.toList heq
    simp only [Module.render, String.toList_append] at hchars
    exact String.toList_inj.mp (List.append_cancel_left hchars)
  have hreadable : ∀ {schema : Schema} {order : List String},
      (∀ entry ∈ schema.entriesOf order, entry.WellFormed) →
        ∀ c ∈ (schema.module order).classes, c.IsReadable settings.indentWidth := by
    intro schema order h
    rw [module, List.forall_mem_map]
    exact fun entry hentry =>
      Definition.isReadable_declaration (h entry hentry).isIdentifier (h entry hentry).definition
  have hlines := map_lines_eq_of_renderClasses_eq (hreadable h) (hreadable h') hclasses
  simp only [module, List.map_map] at hlines
  exact eq_of_map_eq (fun _ _ => Entry.eq_of_lines_eq) h h' hlines

end Schema

namespace Settings

variable {settings : Settings} {schema schema' : Schema} {text : String}

/-- A module is generated if there is an order of emission, and it is written in that order. -/
theorem outcome_generate_eq_ok_iff :
    (settings.generate schema).outcome = .ok text ↔
      ∃ order, schema.emissionOrder = .ok order ∧ (schema.module order).render settings = text := by
  have horder : ∀ order, (schema.noteEmissionOrder.mapError Failure.graph).outcome = .ok order ↔
      schema.emissionOrder = .ok order := by
    intro order
    rw [Attempt.mapError, mapError_eq_ok_iff, Schema.noteEmissionOrder]
    simp [Attempt.outcome_bind_eq_ok_iff, Attempt.outcome_pure_eq_ok_iff, Schema.noteReferences,
      Attempt.ofExcept, Attempt.note]
  rw [generate]
  simp [Attempt.outcome_bind_eq_ok_iff, Attempt.outcome_pure_eq_ok_iff, horder, Attempt.note,
    Schema.noteModule]

/-- Schemas with the same module under some settings have the same definitions, under the same
names. -/
theorem perm_of_generate_eq (settings : Settings) {strict strict' : Bool} {draft draft' : Draft}
    (hload : (draft.load strict).outcome = .ok schema)
    (hload' : (draft'.load strict').outcome = .ok schema')
    (hgenerate : (settings.generate schema).outcome = .ok text)
    (hgenerate' : (settings.generate schema').outcome = .ok text) :
    schema.entries.Perm schema'.entries ∧ ∀ name, schema.get? name = schema'.get? name := by
  obtain ⟨order, horder, htext⟩ := outcome_generate_eq_ok_iff.mp hgenerate
  obtain ⟨order', horder', htext'⟩ := outcome_generate_eq_ok_iff.mp hgenerate'
  have hentries := Schema.perm_entriesOf (Schema.isArrangement_of_emissionOrder horder).perm
  have hentries' := Schema.perm_entriesOf (Schema.isArrangement_of_emissionOrder horder').perm
  have hsame := Schema.entriesOf_eq_of_render_eq
    (fun entry hentry => (Draft.wellFormed_of_load hload).entry entry (hentries.subset hentry))
    (fun entry hentry => (Draft.wellFormed_of_load hload').entry entry (hentries'.subset hentry))
    (htext.trans htext'.symm)
  have hperm : schema.entries.Perm schema'.entries := hentries.symm.trans (hsame ▸ hentries')
  exact ⟨hperm, Schema.get?_eq_of_perm hperm⟩

/-- The definitions of `Schema.photos` in the other order. -/
def photosLater : Schema :=
  ⟨[⟨"Tag", .classDomain ["cat"]⟩, ⟨"Photo", .struct [⟨"tag", .label "Tag"⟩]⟩], by decide⟩

/-- The module for both. -/
def photosText : String :=
  "# Generated by the dsdl parser. DO NOT EDIT!\n\n" ++
    "from dsdl.types import *\nfrom enum import Enum\n\n\n" ++
    "class Tag(Enum):\n  CAT = \"cat\"\nclass Photo(Struct):\n  tag = LabelField(dom=Tag)\n"

theorem outcome_generate_photos :
    ((⟨true, 2, 0⟩ : Settings).generate Schema.photos).outcome = .ok photosText := by
  have horder : Schema.photos.emissionOrder = .ok ["Tag", "Photo"] :=
    Schema.emissionOrder_graph_eq_ok_of_iterate 3 (by decide +kernel) (by decide) (by decide)
  exact outcome_generate_eq_ok_iff.mpr ⟨_, horder, by decide +kernel⟩

/-- The two schemas have the same definitions, as their module tells. -/
theorem perm_photosLater :
    ((Schema.photos.toDraft.load true).outcome = .ok Schema.photos ∧
        (photosLater.toDraft.load false).outcome = .ok photosLater ∧
        ((⟨true, 2, 0⟩ : Settings).generate Schema.photos).outcome = .ok photosText ∧
        ((⟨true, 2, 0⟩ : Settings).generate photosLater).outcome = .ok photosText) ∧
      Schema.photos.entries.Perm photosLater.entries ∧
        ∀ name, Schema.photos.get? name = photosLater.get? name := by
  have hload : (Schema.photos.toDraft.load true).outcome = .ok Schema.photos := by decide +kernel
  have hload' : (photosLater.toDraft.load false).outcome = .ok photosLater := by decide +kernel
  have horder' : photosLater.emissionOrder = .ok ["Tag", "Photo"] :=
    Schema.emissionOrder_graph_eq_ok_of_iterate 3 (by decide +kernel) (by decide) (by decide)
  have hgenerate' : ((⟨true, 2, 0⟩ : Settings).generate photosLater).outcome = .ok photosText :=
    outcome_generate_eq_ok_iff.mpr ⟨_, horder', by decide +kernel⟩
  exact ⟨⟨hload, hload', outcome_generate_photos, hgenerate'⟩,
    perm_of_generate_eq ⟨true, 2, 0⟩ hload hload' outcome_generate_photos hgenerate'⟩

end Settings

end DatasetSchema
