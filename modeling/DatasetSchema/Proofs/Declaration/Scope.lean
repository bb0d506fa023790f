import DatasetSchema.Proofs.Declaration.Faithful

/-!
# What names mean in a module

A generated module is run from top to bottom. In the body of a class a name means what was assigned
to it before in that body, and otherwise what it was last bound to in the module, where the imports
come first. Definitions, fields and the names that the imports bring in share these scopes, and only
reserved words are kept out of them. So a definition may take the name of a constructor that is
called later, and a field the name of a class domain that a later field refers to. Where neither
happens, all names mean what they were written for: references come after the classes they refer to
in the order of emission.

## Main definitions

* `Declaration.Module.KeepsMeaning`: constructors and base classes are the imported ones, and
  references to definitions are to their classes;
* `Schema.NoShadowing`: the schemas for whose modules this is so.

## Main results

* `Declaration.Use.kept_cons_assigned_iff`: what an assignment in a body changes;
* `Declaration.Use.kept_runtime_iff`, `Declaration.Use.kept_reference_iff`: what the classes
  declared before change;
* `Settings.keepsMeaning_iff_noShadowing`: which generated modules keep the meaning of names.
-/

namespace DatasetSchema

namespace Declaration

/-! ## Running a module -/

/-- What a name denotes. -/
inductive Meaning where
  /-- What the imports bring in under the name. -/
  | imported (name : String)
  /-- The class that the module declares under the name. -/
  | declared (name : String)
  /-- What is assigned to the name in the body that is run. -/
  | assigned (name : String)
  deriving DecidableEq, Repr

/-- The bindings of names, the last one first. -/
abbrev Scope := List (String × Meaning)

/-- The names that the imports bring in. -/
def runtimeNames : List String :=
  "Struct" :: "Enum" :: FieldKind.all.map fun kind => kind.name ++ "Field"

/-- The scope after the imports. -/
def importedScope : Scope :=
  runtimeNames.map fun name => (name, .imported name)

/-- How a name is used. -/
inductive Use where
  /-- As a base class or a constructor of the runtime. -/
  | runtime (name : String)
  /-- As a reference to a definition. -/
  | reference (name : String)
  deriving DecidableEq, Repr

mutual

/-- The uses of names in an argument. -/
def Argument.uses : Argument → List Use
  | .call callee arguments => .runtime callee :: argumentUses arguments
  | .name name => [.reference name]
  | .text _ => []
  | .flag _ => []

/-- The uses of names in arguments; their keys are no uses. -/
def argumentUses : List (String × Argument) → List Use
  | [] => []
  | (_, argument) :: rest => argument.uses ++ argumentUses rest

end

/-- The uses of names in the value of an attribute. -/
def Constructor.uses (constructor : Constructor) : List Use :=
  .runtime constructor.callee :: argumentUses constructor.arguments

/-- A use of a name that is met when a module is run. -/
structure Occurrence where
  /-- How the name is used. -/
  use : Use
  /-- The scope in which it is met. -/
  scope : Scope
  deriving DecidableEq, Repr

/-- The uses met in a body. Each assignment is in scope from the next line on. -/
def bodyOccurrences (scope : Scope) : List Attribute → List Occurrence
  | [] => []
  | a :: rest =>
    a.value.uses.map (⟨·, scope⟩) ++ bodyOccurrences ((a.name, .assigned a.name) :: scope) rest

/-- The uses met in a class. The members of an enumeration are texts. -/
def Class.occurrences (scope : Scope) : Class → List Occurrence
  | .struct _ attributes => ⟨.runtime "Struct", scope⟩ :: bodyOccurrences scope attributes
  | .enumeration _ _ => [⟨.runtime "Enum", scope⟩]

/-- The uses met in classes one after the other. Each class is in scope after its body. -/
def occurrences (scope : Scope) : List Class → List Occurrence
  | [] => []
  | c :: rest => c.occurrences scope ++ occurrences ((c.name, .declared c.name) :: scope) rest

/-- The name means in the scope what it is used for. A reference to none of the defined names is for
nothing. -/
def Use.Kept (defined : List String) (scope : Scope) : Use → Prop
  | .runtime name => scope.lookup name = some (.imported name)
  | .reference name => name ∈ defined → scope.lookup name = some (.declared name)

instance (defined : List String) (scope : Scope) (use : Use) :
    Decidable (use.Kept defined scope) := by
  cases use <;> unfold Use.Kept <;> infer_instance

/-- When the module is run, every name means what it is used for. -/
def Module.KeepsMeaning (m : Module) (defined : List String) : Prop :=
  ∀ occurrence ∈ occurrences importedScope m.classes, occurrence.use.Kept defined occurrence.scope

instance (m : Module) (defined : List String) : Decidable (m.KeepsMeaning defined) :=
  List.decidableBAll _ _

/-! ## What a scope changes -/

section Scope

variable {defined declared : List String} {scope : Scope} {use : Use} {name : String}

theorem lookup_cons (name other : String) (meaning : Meaning) (scope : Scope) :
    List.lookup other ((name, meaning) :: scope) =
      if other = name then some meaning else scope.lookup other := by
  rw [List.lookup_cons]
  by_cases h : other = name
  · simp [h]
  · rw [if_neg h, beq_false_of_ne h]

/-- A list of names that are bound at once. -/
theorem lookup_map_append (names : List String) (meaning : String → Meaning) (scope : Scope)
    (other : String) :
    (names.map (fun name => (name, meaning name)) ++ scope).lookup other =
      if other ∈ names then some (meaning other) else scope.lookup other := by
  induction names with
  | nil => simp
  | cons name names ih =>
    rw [List.map_cons, List.cons_append, lookup_cons, ih]
    by_cases h : other = name
    · simp [h]
    · simp [h]

/-- The use needs something else than an attribute with the name. -/
def Use.IsShadowedBy (defined : List String) (name : String) (use : Use) : Prop :=
  use = .runtime name ∨ use = .reference name ∧ name ∈ defined

/-- After an assignment those uses are kept that were before and do not need something else. -/
theorem Use.kept_cons_assigned_iff :
    use.Kept defined ((name, .assigned name) :: scope) ↔
      use.Kept defined scope ∧ ¬ use.IsShadowedBy defined name := by
  cases use with
  | runtime other => by_cases h : other = name <;> simp [Kept, IsShadowedBy, lookup_cons, h]
  | reference other =>
    by_cases h : other = name
    · subst h
      by_cases hdefined : other ∈ defined <;> simp [Kept, IsShadowedBy, hdefined]
    · simp [Kept, IsShadowedBy, lookup_cons, h]

/-- The scope after the imports and some classes. -/
def declaredScope (declared : List String) : Scope :=
  declared.map (fun name => (name, .declared name)) ++ importedScope

theorem declaredScope_cons (name : String) (declared : List String) :
    declaredScope (name :: declared) = (name, .declared name) :: declaredScope declared := rfl

theorem lookup_declaredScope (declared : List String) (name : String) :
    (declaredScope declared).lookup name =
      if name ∈ declared then some (.declared name)
      else if name ∈ runtimeNames then some (.imported name) else none := by
  have himported := lookup_map_append runtimeNames .imported [] name
  rw [List.append_nil] at himported
  rw [declaredScope, lookup_map_append, importedScope, himported, List.lookup_nil]

/-- An imported name is kept until a class takes it. -/
theorem Use.kept_runtime_iff :
    (Use.runtime name).Kept defined (declaredScope declared) ↔
      name ∈ runtimeNames ∧ name ∉ declared := by
  by_cases h : name ∈ declared <;> by_cases h' : name ∈ runtimeNames <;>
    simp [Kept, lookup_declaredScope, h, h']

/-- A reference to a definition is kept once its class is declared. -/
theorem Use.kept_reference_iff :
    (Use.reference name).Kept defined (declaredScope declared) ↔
      name ∈ defined → name ∈ declared := by
  by_cases h : name ∈ declared <;> by_cases h' : name ∈ runtimeNames <;>
    simp [Kept, lookup_declaredScope, h, h']

end Scope

/-! ## Running bodies and classes -/

section Occurrences

variable {defined declared : List String} {scope : Scope}

/-- A body keeps the meaning of names if the scope before it does, and no assignment shadows
what a later one uses. -/
theorem kept_bodyOccurrences_iff {attributes : List Attribute} :
    (∀ occurrence ∈ bodyOccurrences scope attributes,
      occurrence.use.Kept defined occurrence.scope) ↔
      (∀ a ∈ attributes, ∀ use ∈ a.value.uses, use.Kept defined scope) ∧
        attributes.Pairwise fun earlier later =>
          ∀ use ∈ later.value.uses, ¬ use.IsShadowedBy defined earlier.name := by
  induction attributes generalizing scope with
  | nil => simp [bodyOccurrences]
  | cons a rest ih =>
    rw [bodyOccurrences, List.forall_mem_append, List.forall_mem_map, ih, List.forall_mem_cons,
      List.pairwise_cons]
    simp only [Use.kept_cons_assigned_iff]
    constructor
    · rintro ⟨hfirst, hrest, hpairwise⟩
      exact ⟨⟨hfirst, fun b hb use huse => (hrest b hb use huse).1⟩,
        fun b hb use huse => (hrest b hb use huse).2, hpairwise⟩
    · rintro ⟨⟨hfirst, hrest⟩, hnone, hpairwise⟩
      exact ⟨hfirst, fun b hb use huse => ⟨hrest b hb use huse, hnone b hb use huse⟩, hpairwise⟩

end Occurrences

end Declaration

open Declaration

/-! ## The names in the class for a definition -/

/-- The constructors that are called for a field type. -/
def FieldType.callees : FieldType → List String
  | .list element _ => "ListField" :: element.callees
  | type => [type.kind.name ++ "Field"]

/-- The constructor for a type uses its callees and references. -/
theorem FieldType.uses_constructor (type : FieldType) :
    type.constructor.uses = type.callees.map .runtime ++ type.references.map .reference := by
  induction type with
  | plain | label | date | time =>
    simp [constructor, Constructor.uses, argumentUses, Argument.uses, callees, references, kind,
      FieldKind.name]
  | list element ordered ih =>
    have helement : Use.runtime element.constructor.callee ::
        argumentUses element.constructor.arguments =
        element.callees.map .runtime ++ element.references.map .reference := ih
    cases ordered <;>
      simp [constructor, Constructor.uses, argumentUses, Argument.uses, callees,
        references, ← helement]

theorem FieldType.forall_uses_iff {type : FieldType} {p : Use → Prop} :
    (∀ use ∈ type.constructor.uses, p use) ↔
      (∀ name ∈ type.callees, p (.runtime name)) ∧
        ∀ name ∈ type.references, p (.reference name) := by
  rw [uses_constructor, List.forall_mem_append, List.forall_mem_map, List.forall_mem_map]

/-- A type whose constructor is not shadowed by the name of an attribute. -/
theorem FieldType.forall_not_isShadowedBy_iff {type : FieldType} {defined : List String}
    {name : String} :
    (∀ use ∈ type.constructor.uses, ¬ use.IsShadowedBy defined name) ↔
      name ∉ type.callees ∧ (name ∈ defined → name ∉ type.references) := by
  rw [forall_uses_iff]
  simp only [Use.IsShadowedBy, Use.runtime.injEq, Use.reference.injEq, reduceCtorEq, false_and,
    or_false, false_or, not_and]
  constructor
  · rintro ⟨hcallees, hreferences⟩
    exact ⟨fun hname => hcallees name hname rfl,
      fun hdefined hname => hreferences name hname rfl hdefined⟩
  · rintro ⟨hcallees, hreferences⟩
    refine ⟨?_, ?_⟩
    · rintro _ hname rfl
      exact hcallees hname
    · rintro _ hname rfl hdefined
      exact hreferences hdefined hname

/-- All constructors that are called are imported. -/
theorem FieldType.callees_subset (type : FieldType) : type.callees ⊆ runtimeNames := by
  have hkind : ∀ kind : FieldKind, kind.name ++ "Field" ∈ runtimeNames := by
    intro kind
    cases kind <;> decide
  induction type with
  | plain | label | date | time => exact List.cons_subset.mpr ⟨hkind _, List.nil_subset _⟩
  | list element ordered ih => exact List.cons_subset.mpr ⟨hkind .list, ih⟩

namespace Definition

/-- The imported names in the class for a definition. -/
def runtimeNames : Definition → List String
  | .struct fields => "Struct" :: fields.flatMap (·.type.callees)
  | .classDomain _ => ["Enum"]

/-- No field has the name of a constructor, or of a definition, that a later field of the struct
uses. -/
def NoShadowing (defined : List String) : Definition → Prop
  | .struct fields =>
    fields.Pairwise fun earlier later =>
      earlier.name ∉ later.type.callees ∧
        (earlier.name ∈ defined → earlier.name ∉ later.type.references)
  | .classDomain _ => True

/-- The class for a definition keeps the meaning of names if no class before it has a name that it
needs from the imports, all that it refers to is declared before, and no field shadows a name. -/
theorem kept_occurrences_declaration_iff {name : String} {definition : Definition}
    {defined declared : List String} :
    (∀ occurrence ∈ (definition.declaration name).occurrences (declaredScope declared),
        occurrence.use.Kept defined occurrence.scope) ↔
      ((∀ needed ∈ definition.runtimeNames, needed ∉ declared) ∧
          ∀ reference ∈ definition.references, reference ∈ defined → reference ∈ declared) ∧
        definition.NoShadowing defined := by
  cases definition with
  | classDomain classes =>
    have henum : "Enum" ∈ Declaration.runtimeNames := by decide
    simp [declaration, Class.occurrences, Use.kept_runtime_iff, runtimeNames, references,
      NoShadowing, henum]
  | struct fields =>
    have hstruct : "Struct" ∈ Declaration.runtimeNames := by decide
    have hcallees : ∀ field ∈ fields, ∀ callee ∈ field.type.callees, callee ∈
        Declaration.runtimeNames :=
      fun field _ callee hcallee => field.type.callees_subset hcallee
    -- What a field shadows is the last part of both sides; the uses of names remain to be compared.
    rw [declaration, Class.occurrences, List.forall_mem_cons, kept_bodyOccurrences_iff,
      List.forall_mem_map, List.pairwise_map,
      List.Pairwise.iff fun _ _ => FieldType.forall_not_isShadowedBy_iff, ← and_assoc]
    refine and_congr_left fun _ => ?_
    simp only [FieldType.forall_uses_iff, Use.kept_runtime_iff, Use.kept_reference_iff,
      runtimeNames, references, List.forall_mem_cons, List.forall_mem_flatMap]
    constructor
    · rintro ⟨⟨-, hfirst⟩, hbody⟩
      exact ⟨⟨hfirst, fun field hfield callee hcallee => ((hbody field hfield).1 callee hcallee).2⟩,
        fun field hfield => (hbody field hfield).2⟩
    · rintro ⟨⟨hfirst, hbody⟩, hreferences⟩
      exact ⟨⟨hstruct, hfirst⟩, fun field hfield =>
        ⟨fun callee hcallee => ⟨hcallees field hfield callee hcallee,
          hbody field hfield callee hcallee⟩, hreferences field hfield⟩⟩

end Definition

namespace Schema

variable {schema : Schema} {order : List String} {entries : List Entry}
  {defined declared : List String}

/-! ## The names in a module -/

/-- Classes one after the other keep the meaning of names if none has a name that a later
one needs from the imports and no field shadows a name, given that references are to
classes that come before. -/
theorem kept_occurrences_iff
    (hreferences : ∀ before entry after, entries = before ++ entry :: after →
      ∀ reference ∈ entry.definition.references, reference ∈ defined →
        reference ∈ declared ∨ reference ∈ before.map Entry.name) :
    (∀ occurrence ∈ occurrences (declaredScope declared)
          (entries.map fun entry => entry.definition.declaration entry.name),
        occurrence.use.Kept defined occurrence.scope) ↔
      (∀ entry ∈ entries, ∀ needed ∈ entry.definition.runtimeNames, needed ∉ declared) ∧
        (entries.Pairwise fun earlier later => earlier.name ∉ later.definition.runtimeNames) ∧
          ∀ entry ∈ entries, entry.definition.NoShadowing defined := by
  induction entries generalizing declared with
  | nil => simp [occurrences]
  | cons entry entries ih =>
    have hname : (entry.definition.declaration entry.name).name = entry.name := by
      cases entry.definition <;> rfl
    have hfirst : ∀ reference ∈ entry.definition.references, reference ∈ defined →
        reference ∈ declared := by
      intro reference href hdefined
      simpa using hreferences [] entry entries rfl reference href hdefined
    have hrest : ∀ before later after, entries = before ++ later :: after →
        ∀ reference ∈ later.definition.references, reference ∈ defined →
          reference ∈ entry.name :: declared ∨ reference ∈ before.map Entry.name := by
      intro before later after heq reference href hdefined
      have := hreferences (entry :: before) later after (by rw [heq]; rfl) reference href hdefined
      rw [List.map_cons, List.mem_cons] at this
      rw [List.mem_cons]
      tauto
    -- One more class is declared for the entries that follow.
    have hdeclared :
        (∀ later ∈ entries, ∀ needed ∈ later.definition.runtimeNames,
          needed ∉ entry.name :: declared) ↔
          (∀ later ∈ entries, ∀ needed ∈ later.definition.runtimeNames, needed ∉ declared) ∧
            ∀ later ∈ entries, entry.name ∉ later.definition.runtimeNames := by
      simp only [List.mem_cons, not_or]
      constructor
      · intro h
        exact ⟨fun later hlater needed hneeded => (h later hlater needed hneeded).2,
          fun later hlater hneeded => (h later hlater entry.name hneeded).1 rfl⟩
      · rintro ⟨hbefore, hentry⟩ later hlater needed hneeded
        exact ⟨fun heq => hentry later hlater (heq ▸ hneeded), hbefore later hlater needed hneeded⟩
    rw [List.map_cons, occurrences, List.forall_mem_append,
      Definition.kept_occurrences_declaration_iff, hname, ← declaredScope_cons, ih hrest,
      List.forall_mem_cons, List.pairwise_cons, List.forall_mem_cons, hdeclared]
    tauto

theorem map_name_entriesOf (h : order ⊆ schema.names) :
    (schema.entriesOf order).map Entry.name = order := by
  induction order with
  | nil => rfl
  | cons first order ih =>
    obtain ⟨hfirst, horder⟩ := List.cons_subset.mp h
    obtain ⟨⟨_, definition⟩, hentry, rfl⟩ := List.mem_map.mp hfirst
    have hrest := ih horder
    rw [entriesOf] at hrest ⊢
    rw [List.filterMap_cons, get?_eq_some_iff.mpr hentry, Option.map_some, List.map_cons, hrest]

/-- What has its first place before a name in a list is in what comes before the name. -/
theorem mem_of_idxOf_lt {before after : List String} {name other : String}
    (h : (before ++ name :: after).idxOf other < (before ++ name :: after).idxOf name) :
    other ∈ before := by
  by_contra hother
  have hle : (before ++ name :: after).idxOf name ≤ before.length := by
    by_cases hname : name ∈ before
    · rw [List.idxOf_append_of_mem hname]
      exact List.idxOf_le_length
    · rw [List.idxOf_append_of_notMem hname, List.idxOf_cons_self, Nat.add_zero]
  rw [List.idxOf_append_of_notMem hother] at h
  omega

/-- In an arrangement of the definitions, references are to what comes before. -/
theorem IsArrangement.mem_before (h : schema.IsArrangement order) {before after : List Entry}
    {entry : Entry} (heq : schema.entriesOf order = before ++ entry :: after) {reference : String}
    (href : reference ∈ entry.definition.references) (hdefined : reference ∈ schema.names) :
    reference ∈ before.map Entry.name := by
  have hnames := map_name_entriesOf h.perm.subset
  rw [heq, List.map_append, List.map_cons] at hnames
  have hentry : entry ∈ schema.entries := (perm_entriesOf h.perm).subset (heq ▸ by simp)
  have hlt :=
    h.idxOf_lt entry.name reference (refersTo_iff.mpr ⟨hdefined, entry, hentry, rfl, href⟩)
  rw [← hnames] at hlt
  exact mem_of_idxOf_lt hlt

/-- No class in a module has a name that a later one needs from the imports, and no
field shadows a name. -/
structure NoShadowing (schema : Schema) (order : List String) : Prop where
  /-- No class has a name that a later one needs from the imports. -/
  definitions : (schema.entriesOf order).Pairwise fun earlier later =>
    earlier.name ∉ later.definition.runtimeNames
  /-- No field shadows a name that a later field uses. -/
  fields : ∀ entry ∈ schema.entries, entry.definition.NoShadowing schema.names

/-- A module in which the definitions are arranged keeps the meaning of names if nothing is
shadowed. -/
theorem IsArrangement.keepsMeaning_iff (h : schema.IsArrangement order) :
    (schema.module order).KeepsMeaning schema.names ↔ schema.NoShadowing order := by
  have hentries := perm_entriesOf h.perm
  have hreferences : ∀ before entry after, schema.entriesOf order = before ++ entry :: after →
      ∀ reference ∈ entry.definition.references, reference ∈ schema.names →
        reference ∈ [] ∨ reference ∈ before.map Entry.name :=
    fun before entry after heq reference href hdefined => .inr (h.mem_before heq href hdefined)
  have hmodule := kept_occurrences_iff hreferences
  rw [Module.KeepsMeaning]
  refine hmodule.trans ?_
  constructor
  · rintro ⟨-, hdefinitions, hfields⟩
    exact ⟨hdefinitions, fun entry hentry => hfields entry (hentries.symm.subset hentry)⟩
  · rintro ⟨hdefinitions, hfields⟩
    exact ⟨by simp, hdefinitions, fun entry hentry => hfields entry (hentries.subset hentry)⟩

end Schema

namespace Settings

/-- A generated module is written for classes in an order of emission. When it is run, base
classes and constructors are the imported ones, and references to definitions are to their
classes, exactly if no class has a name that a later one needs from the imports and no field
shadows a name that a later field uses. -/
theorem keepsMeaning_iff_noShadowing {settings : Settings} {schema : Schema} {text : String}
    (hgenerate : (settings.generate schema).outcome = .ok text) :
    ∃ order, schema.emissionOrder = .ok order ∧ (schema.module order).render settings = text ∧
      ((schema.module order).KeepsMeaning schema.names ↔ schema.NoShadowing order) := by
  obtain ⟨order, horder, htext⟩ := outcome_generate_eq_ok_iff.mp hgenerate
  exact ⟨order, horder, htext, (Schema.isArrangement_of_emissionOrder horder).keepsMeaning_iff⟩

/-- In the module for `Schema.photos` nothing is shadowed. -/
theorem keepsMeaning_photos :
    ((⟨true, 2, 0⟩ : Settings).generate Schema.photos).outcome = .ok photosText ∧
      ∃ order, Schema.photos.emissionOrder = .ok order ∧
        (Schema.photos.module order).render ⟨true, 2, 0⟩ = photosText ∧
          ((Schema.photos.module order).KeepsMeaning Schema.photos.names ↔
            Schema.photos.NoShadowing order) :=
  ⟨outcome_generate_photos, keepsMeaning_iff_noShadowing outcome_generate_photos⟩

/-- A document with a field that has the name of the class domain of the next field. -/
def carsText : String :=
  "defs:\n  Color:\n    $def: class_domain\n    classes: [red]\n" ++
    "  Car:\n    $def: struct\n    $fields:\n      Color: Label[Color]\n      trim: Label[Color]\n"

/-- What the document says. -/
def cars : Schema :=
  ⟨[⟨"Color", .classDomain ["red"]⟩,
    ⟨"Car", .struct [⟨"Color", .label "Color"⟩, ⟨"trim", .label "Color"⟩]⟩], by decide⟩

/-- The document is accepted, also under strict settings, and a module is generated, in which the
last reference to the class domain is to the attribute above it. -/
theorem not_keepsMeaning_cars :
    (Schema.ofText true carsText).outcome = .ok cars ∧
      (∃ text, ((⟨true, 4, 1⟩ : Settings).generate cars).outcome = .ok text) ∧
        cars.emissionOrder = .ok ["Color", "Car"] ∧
          ¬ (cars.module ["Color", "Car"]).KeepsMeaning cars.names := by
  have hread : (Schema.ofText true carsText).outcome = .ok cars := by decide +kernel
  have horder : cars.emissionOrder = .ok ["Color", "Car"] :=
    Schema.emissionOrder_graph_eq_ok_of_iterate 3 (by decide +kernel) (by decide) (by decide)
  exact ⟨hread, ⟨_, outcome_generate_eq_ok_iff.mpr ⟨_, horder, rfl⟩⟩, horder, by decide +kernel⟩

end Settings

end DatasetSchema
