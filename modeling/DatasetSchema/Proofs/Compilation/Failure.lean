import DatasetSchema.Proofs.Compilation.Phases

/-!
# What a failure tells

A compilation fails with one diagnostic on the document or with diagnostics on circles, and the
codes tell which. A diagnostic on the type of a field shows this type as it was read, is placed at
the field, and says what is said of the type on its own; all other diagnostics on documents are
about the document itself.

## Main definitions

* `Draft.HasField`: the fields of a draft whose types are read;
* `Diagnostic.IsOnType`: what a diagnostic on the type of a field is like;
* `Diagnostic.IsOnDocument`: what the diagnostic of a failed parse is like.

## Main results

* `Draft.exists_field_of_load`: a fault in the type of a field is the fault of a field of the draft;
* `Settings.compile_fails_on_document_or_circles`: with what a compilation fails.
-/

namespace DatasetSchema

open Document (Value)

/-! ## Codes -/

/-- The codes for types of fields, as they are printed. -/
def typeCodes : List String :=
  ["E100", "E101", "E102", "E103", "E104", "E105", "E106", "E107", "E108"]

/-- The codes for everything else in a document. -/
def documentCodes : List String :=
  ["E200", "E201", "E202", "E203", "E204", "E205"]

namespace Diagnostic

/-- The diagnostic has one of the codes. -/
def HasCodeOf (d : Diagnostic) (codes : List String) : Prop :=
  ∃ code, d.code = some code ∧ code.text ∈ codes

theorem HasCodeOf.isSome_kind {d : Diagnostic} {codes : List String} (h : d.HasCodeOf codes) :
    d.kind.isSome := by
  obtain ⟨code, hcode, -⟩ := h
  rw [kind, hcode]
  rfl

end Diagnostic

/-- A fault in a type has a code for types. What its diagnostic is about and where is left open. -/
theorem TypeExpr.Fault.hasCodeOf_diagnostic (fault : TypeExpr.Fault) :
    fault.diagnostic.HasCodeOf typeCodes ∧ fault.diagnostic.source = none ∧
      fault.diagnostic.location = none := by
  cases fault with
  | duplicateParameter kind key again first =>
    cases first <;> exact ⟨⟨_, rfl, by decide⟩, rfl, rfl⟩
  | _ => exact ⟨⟨_, rfl, by decide⟩, rfl, rfl⟩

/-- A fault of a document has the code for documents, and its diagnostic shows no other text. -/
theorem Document.Fault.hasCodeOf_diagnostic [Document.SyntaxReporter] (source : String)
    (fault : Document.Fault) :
    (fault.diagnostic source).HasCodeOf documentCodes ∧
      (fault.diagnostic source).source = none := by
  rw [diagnostic]
  cases fault.position? source <;> exact ⟨⟨_, rfl, by decide⟩, rfl⟩

/-! ## Fields -/

namespace Draft

open Attempt

variable {strict : Bool} {name definition field source owner : String} {fault : TypeExpr.Fault}

/-- A struct of the draft has the field, with this as its type, and both names can be used. -/
def HasField (draft : Draft) (definition field : String) (written : Value) : Prop :=
  ∃ definitions struct fields, draft.definitions = some definitions ∧
    (definition, struct) ∈ definitions ∧ Usable .definition definition ∧
    struct.tag = some DefinitionKind.struct.tag ∧ struct.fields = some fields ∧
    (field, written) ∈ fields ∧ Usable .field field

/-- What is written has the fault when it is read without white space. -/
def WritesFault (written : Value) (source : String) (fault : TypeExpr.Fault) : Prop :=
  ∃ text, written.scalarText? = some text ∧ Text.stripWhiteSpace text = source ∧
    FieldType.denotedBy source = .error fault

/-- A fault from where a name is looked at is about the name, or comes of what is done after it. -/
theorem outcome_acceptName_bind_eq_error {α : Type} {role : NameRole} {owner : Option String}
    {taken skipped : Attempt Fault α} {fault : Fault}
    (h : (acceptName strict role owner name >>= fun b => if b then taken else skipped).outcome =
      .error fault) :
    (∃ problem, fault = .unusableName role name owner problem) ∨
      (Usable role name ∧ taken.outcome = .error fault) ∨ skipped.outcome = .error fault := by
  rw [acceptName] at h
  split at h
  · next hnone => exact .inr (.inl ⟨nameProblem?_eq_none_iff.mp hnone, h⟩)
  · next problem _ =>
    cases strict with
    | true =>
      injection h with h
      exact .inl ⟨problem, h.symm⟩
    | false => exact .inr (.inr h)

theorem fieldType_eq_error_iff {written : Value} :
    fieldType definition name written = .error (.fieldType fault source field owner) ↔
      WritesFault written source fault ∧ name = field ∧ definition = owner := by
  rw [fieldType, WritesFault]
  cases written.scalarText? with
  | none => simp
  | some text =>
    rw [mapError_eq_error_iff]
    constructor
    · rintro ⟨_, hdenotes, heq⟩
      cases heq
      exact ⟨⟨text, rfl, rfl, hdenotes⟩, rfl, rfl⟩
    · rintro ⟨⟨_, htext, rfl, hdenotes⟩, rfl, rfl⟩
      obtain rfl := Option.some.inj htext
      exact ⟨fault, hdenotes, rfl⟩

/-- A fault in the type of a field is found in an entry for this field. -/
theorem exists_entry_of_loadFields {seen : List String} {written : List (String × Value)}
    (h : (loadFields strict definition seen written).outcome =
      .error (.fieldType fault source field owner)) :
    definition = owner ∧ Usable .field field ∧
      ∃ value, (field, value) ∈ written ∧ WritesFault value source fault := by
  induction written generalizing seen with
  | nil => exact absurd h outcome_pure_ne_error
  | cons entry rest ih =>
    obtain ⟨name, written⟩ := entry
    -- Whatever names have been seen, a fault in the rest is found in an entry of the rest.
    have hrest : ∀ seen, (loadFields strict definition seen rest).outcome =
          .error (.fieldType fault source field owner) →
        definition = owner ∧ Usable .field field ∧
          ∃ value, (field, value) ∈ (name, written) :: rest ∧ WritesFault value source fault := by
      intro seen h
      obtain ⟨howner, husable, value, hvalue, hfault⟩ := ih h
      exact ⟨howner, husable, value, List.mem_cons_of_mem _ hvalue, hfault⟩
    rw [loadFields] at h
    rcases outcome_acceptName_bind_eq_error h with ⟨_, h⟩ | ⟨husable, h⟩ | h
    · contradiction
    · split at h
      · cases outcome_fail_eq_error_iff.mp h
      · rcases outcome_bind_eq_error_iff.mp h with h | ⟨_, -, h⟩
        · obtain ⟨hfault, rfl, rfl⟩ := fieldType_eq_error_iff.mp h
          exact ⟨rfl, husable, written, List.mem_cons_self, hfault⟩
        · rcases outcome_bind_eq_error_iff.mp h with h | ⟨_, -, h⟩
          · exact hrest _ h
          · exact absurd h outcome_pure_ne_error
    · exact hrest _ h

/-- Classes have no types that could be faulty. -/
theorem outcome_loadClasses_ne_fieldType {seen : List String} {written : List Value} :
    (loadClasses strict definition seen written).outcome ≠
      .error (.fieldType fault source field owner) := by
  induction written generalizing seen with
  | nil => exact outcome_pure_ne_error
  | cons value rest ih =>
    intro h
    rw [loadClasses] at h
    split at h
    · cases outcome_fail_eq_error_iff.mp h
    · rcases outcome_acceptName_bind_eq_error h with ⟨_, h⟩ | ⟨-, h⟩ | h
      · contradiction
      · split at h
        · split at h <;> cases outcome_fail_eq_error_iff.mp h
        · rcases outcome_bind_eq_error_iff.mp h with h | ⟨_, -, h⟩
          · exact ih h
          · exact absurd h outcome_pure_ne_error
      · exact ih h

theorem Definition.exists_entry_of_load {draft : Definition}
    (h : (draft.load strict definition).outcome = .error (.fieldType fault source field owner)) :
    definition = owner ∧ draft.tag = some DefinitionKind.struct.tag ∧
      ∃ fields, draft.fields = some fields ∧ Usable .field field ∧
        ∃ value, (field, value) ∈ fields ∧ WritesFault value source fault := by
  rw [load] at h
  split at h
  · cases outcome_fail_eq_error_iff.mp h
  · next tag htag =>
    split at h
    · cases outcome_fail_eq_error_iff.mp h
    · next hkind =>
      split at h
      · cases outcome_fail_eq_error_iff.mp h
      · next written hwritten =>
        rcases outcome_bind_eq_error_iff.mp h with h | ⟨_, -, h⟩
        · obtain ⟨howner, hentry⟩ := exists_entry_of_loadFields h
          rw [ofTag?_eq_some_iff.mp hkind] at htag
          exact ⟨howner, htag, written, hwritten, hentry⟩
        · exact absurd h outcome_pure_ne_error
    · split at h
      · cases outcome_fail_eq_error_iff.mp h
      · rcases outcome_bind_eq_error_iff.mp h with h | ⟨_, -, h⟩
        · exact absurd h outcome_loadClasses_ne_fieldType
        · exact absurd h outcome_pure_ne_error

/-- A fault in the type of a field is found in a definition of the draft. -/
theorem exists_definition_of_loadInto {schema : Schema} {definitions : List (String × Definition)}
    (h : (loadInto strict schema definitions).outcome =
      .error (.fieldType fault source field owner)) :
    Usable .definition owner ∧ ∃ struct, (owner, struct) ∈ definitions ∧
      (struct.load strict owner).outcome = .error (.fieldType fault source field owner) := by
  induction definitions generalizing schema with
  | nil => exact absurd h outcome_pure_ne_error
  | cons entry rest ih =>
    obtain ⟨name, draft⟩ := entry
    have hrest : ∀ schema, (loadInto strict schema rest).outcome =
          .error (.fieldType fault source field owner) →
        Usable .definition owner ∧ ∃ struct, (owner, struct) ∈ (name, draft) :: rest ∧
          (struct.load strict owner).outcome = .error (.fieldType fault source field owner) := by
      intro schema h
      obtain ⟨husable, struct, hstruct, hload⟩ := ih h
      exact ⟨husable, struct, List.mem_cons_of_mem _ hstruct, hload⟩
    rw [loadInto] at h
    rcases outcome_acceptName_bind_eq_error h with ⟨_, h⟩ | ⟨husable, h⟩ | h
    · contradiction
    · -- The fault comes from this definition, or else from the ones behind it.
      rcases outcome_bind_eq_error_iff.mp h with hload | ⟨_, -, h⟩
      · obtain ⟨rfl, -⟩ := Definition.exists_entry_of_load hload
        exact ⟨husable, draft, List.mem_cons_self, hload⟩
      · split at h
        · cases outcome_fail_eq_error_iff.mp h
        · rcases outcome_bind_eq_error_iff.mp h with h | ⟨_, -, h⟩
          · contradiction
          · exact hrest _ h
    · exact hrest _ h

/-- A fault in the type of a field is the fault of a field of the draft. -/
theorem exists_field_of_load {draft : Draft}
    (h : (draft.load strict).outcome = .error (.fieldType fault source field definition)) :
    ∃ written, draft.HasField definition field written ∧ WritesFault written source fault := by
  rw [load] at h
  split at h
  · cases outcome_fail_eq_error_iff.mp h
  · next definitions hdefinitions =>
    obtain ⟨husable, struct, hstruct, hload⟩ := exists_definition_of_loadInto h
    obtain ⟨-, htag, fields, hfields, hfield, value, hvalue, hfault⟩ :=
      Definition.exists_entry_of_load hload
    exact ⟨value, ⟨definitions, struct, fields, hdefinitions, hstruct, husable, htag, hfields,
      hvalue, hfield⟩, hfault⟩

end Draft

/-! ## Diagnostics -/

/-- What a diagnostic on the type of a field is like: it shows the type as it was read, it is placed
at the field, and apart from that it is the diagnostic on this type alone. -/
structure Diagnostic.IsOnType (d : Diagnostic) (definition field type : String) : Prop where
  /-- It shows the type. -/
  source : d.source = some type
  /-- It is placed at the field. -/
  location : d.location = some (fieldPlace field definition)
  /-- It says what is said of the type alone. -/
  exists_ofText : ∃ alone, FieldType.ofText type = .error alone ∧ d.code = alone.code ∧
    d.message = alone.message ∧ d.help = alone.help ∧ d.labels = alone.labels

/-- What the diagnostic of a failed parse is like: its code is one for documents, and it shows no
other text, or it is on the type of a field that the document has, with a code for types. -/
inductive Diagnostic.IsOnDocument (source : String) (d : Diagnostic) : Prop
  | document (hasCodeOf : d.HasCodeOf documentCodes) (source_eq : d.source = none)
  | type (draft : Draft) (definition field : String) (written : Value) (text : String)
      (hasCodeOf : d.HasCodeOf typeCodes)
      (ofText : Draft.ofText source = .ok draft)
      (hasField : draft.HasField definition field written)
      (scalarText? : written.scalarText? = some text)
      (isOnType : d.IsOnType definition field (Text.stripWhiteSpace text))

namespace Draft.Fault

/-- All other faults of a draft have codes for documents, and their diagnostics show no other
text. -/
theorem eq_fieldType_or_hasCodeOf (fault : Fault) :
    (∃ cause source field definition, fault = .fieldType cause source field definition) ∨
      (fault.diagnostic.HasCodeOf documentCodes ∧ fault.diagnostic.source = none) := by
  cases fault with
  | fieldType cause source field definition => exact .inl ⟨cause, source, field, definition, rfl⟩
  | unusableName role name owner problem =>
    cases owner <;> exact .inr ⟨⟨_, rfl, by decide⟩, rfl⟩
  | _ => exact .inr ⟨⟨_, rfl, by decide⟩, rfl⟩

theorem isOnType_diagnostic {cause : TypeExpr.Fault} {type field definition : String}
    (h : FieldType.denotedBy type = .error cause) :
    (fieldType cause type field definition).diagnostic.IsOnType definition field type := by
  obtain ⟨-, hsource, hlocation⟩ := cause.hasCodeOf_diagnostic
  refine ⟨?_, ?_, cause.diagnostic.withSource type, ?_, rfl, rfl, rfl, rfl⟩
  · show (cause.diagnostic.source <|> some type) = some type
    rw [hsource]
    rfl
  · show (cause.diagnostic.location <|> some _) = some _
    rw [hlocation]
    rfl
  · exact mapError_eq_error_iff.mpr ⟨cause, h, rfl⟩

end Draft.Fault

variable {strict : Bool} {source : String} {d : Diagnostic}

/-- A diagnostic on a document has a code for types exactly if it shows a text of its own. -/
theorem Diagnostic.IsOnDocument.isSome_source_iff (h : d.IsOnDocument source) :
    d.source.isSome ↔ d.HasCodeOf typeCodes := by
  cases h with
  | document hcode hsource =>
    obtain ⟨code, hcode, hdocument⟩ := hcode
    rw [hsource]
    refine ⟨nofun, fun ⟨code', hcode', htype⟩ => ?_⟩
    obtain rfl := Option.some.inj (hcode.symm.trans hcode')
    have hdisjoint : ∀ code ∈ typeCodes, code ∉ documentCodes := by decide
    exact absurd hdocument (hdisjoint _ htype)
  | type draft definition field written text hcode _ _ _ htype =>
    rw [htype.source]
    exact ⟨fun _ => hcode, fun _ => rfl⟩

theorem Diagnostic.IsOnDocument.isSome_kind (h : d.IsOnDocument source) : d.kind.isSome := by
  cases h with
  | document hcode _ => exact hcode.isSome_kind
  | type draft definition field written text hcode _ _ _ _ => exact hcode.isSome_kind

/-- What is wrong with a document is told by a diagnostic on it. -/
theorem Schema.isOnDocument_of_ofText [Document.SyntaxReporter]
    (h : (Schema.ofText strict source).outcome = .error d) :
    d.IsOnDocument source := by
  rcases outcome_ofText_eq_error_iff.mp h with ⟨fault, -, rfl⟩ | ⟨draft, hdraft, fault, hload, rfl⟩
  · obtain ⟨hcode, hsource⟩ := fault.hasCodeOf_diagnostic source
    exact .document hcode hsource
  · rcases fault.eq_fieldType_or_hasCodeOf with
      ⟨cause, type, field, definition, rfl⟩ | ⟨hcode, hsource⟩
    · obtain ⟨written, hfield, text, htext, rfl, hdenotes⟩ := Draft.exists_field_of_load hload
      exact .type draft definition field written text cause.hasCodeOf_diagnostic.1 hdraft
        hfield htext (Draft.Fault.isOnType_diagnostic hdenotes)
    · exact .document hcode hsource

namespace Settings

variable {settings : Settings} {failure : Failure}

/-- A compilation fails in parsing, with one diagnostic on the document, or after it, with
diagnostics on circles. So there always is a group of faults that the failure belongs to. -/
theorem compile_fails_on_document_or_circles [Document.SyntaxReporter]
    (h : (settings.compile source).outcome = .error failure) :
    failure.kind.isSome ∧
      ((∃ d, failure = .parse [d] source ∧ d.IsOnDocument source ∧
          (d.source.isSome ↔ d.HasCodeOf typeCodes)) ∨
        ∃ ds, failure = .graph ds ∧ ds ≠ [] ∧ (∀ d ∈ ds, d.HasCodeOf ["E300"]) ∧
          ∃ schema, (settings.parse source).outcome = .ok schema) := by
  -- Parsing has failed, or the order of the definitions that were parsed.
  rcases outcome_compile_eq_error_iff.mp h with h | ⟨schema, hparse, h⟩
  · obtain ⟨d, hd, rfl⟩ := outcome_parse_eq_error_iff.mp h
    have hdocument := Schema.isOnDocument_of_ofText hd
    refine ⟨?_, .inl ⟨d, rfl, hdocument, hdocument.isSome_source_iff⟩⟩
    obtain ⟨kind, hkind⟩ := Option.isSome_iff_exists.mp hdocument.isSome_kind
    rw [Failure.kind, Diagnostic.kindOfAll, List.findSome?_cons, hkind]
    rfl
  · obtain ⟨hcircles, rfl⟩ := outcome_generate_eq_error_iff.mp h
    obtain ⟨circle, circles, hcons⟩ := List.exists_cons_of_ne_nil hcircles
    refine ⟨?_, .inr ⟨_, rfl, ?_, ?_, schema, hparse⟩⟩
    · rw [hcons]
      rfl
    · simpa using hcircles
    · rw [List.forall_mem_map]
      exact fun circle _ => ⟨.circularDefinition, rfl, by decide⟩

/-- A document with a field whose type has a mistake in it, behind some white space. -/
def scansText : String :=
  "defs:\n  Scan:\n    $def: struct\n    $fields:\n      shots: List[ etype = Image[x] ]\n"

/-- The mistake is shown in the type without white space. -/
def scansDiagnostic : Diagnostic where
  severity := .error
  code := some .unknownType
  message := "unknown type `Image[...]`"
  location := some "field `shots` of `Scan`"
  labels := [⟨Span.ofLength 16 3, "unexpected parameters", true⟩]
  help := some "`Image` does not take parameters; write `Image`"
  source := some "List[etype=Image[x]]"

theorem compile_scansText :
    (compile ⟨true, 4, 1⟩ scansText).outcome = .error (.parse [scansDiagnostic] scansText) ∧
      (Failure.parse [scansDiagnostic] scansText).kind.isSome ∧
        ((∃ d, Failure.parse [scansDiagnostic] scansText = .parse [d] scansText ∧
            d.IsOnDocument scansText ∧ (d.source.isSome ↔ d.HasCodeOf typeCodes)) ∨
          ∃ ds, Failure.parse [scansDiagnostic] scansText = .graph ds ∧ ds ≠ [] ∧
            (∀ d ∈ ds, d.HasCodeOf ["E300"]) ∧
              ∃ schema, (parse ⟨true, 4, 1⟩ scansText).outcome = .ok schema) := by
  have hcompile : (compile ⟨true, 4, 1⟩ scansText).outcome =
      .error (.parse [scansDiagnostic] scansText) := by decide +kernel
  exact ⟨hcompile, compile_fails_on_document_or_circles hcompile⟩

end Settings

end DatasetSchema
