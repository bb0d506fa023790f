import DatasetSchema.Proofs.Compilation.Phases
import DatasetSchema.Proofs.Draft.Reading
import DatasetSchema.Proofs.Number.Spelling

/-!
# How classes are spelled

A class is named by the text of a value, and a value does not remember how it is written. For a
plain scalar that stands for a truth value the text is `true` or `false`, whichever of its spellings
is in the document. All other spellings are kept: a quoted scalar is its text, nothing has no text
at all, and the text of a number is no identifier, so that no class has it.

## Main definitions

* `Draft.Anchors.className?`: the name that an entry of a class domain gives;
* `Draft.Anchors.untagged?`: the spelling of an entry without a tag.

## Main results

* `Draft.className?_eq_spelling_iff`: when the name of an entry is its spelling;
* `Schema.classes_as_spelled_iff`: the classes of a loaded document.
-/

namespace DatasetSchema

namespace Draft

open Document hiding Fault
open Reading

/-! ## The name of an entry -/

/-- The words for truth values that are not the texts of these. -/
def respelledWords : List String :=
  ["True", "TRUE", "False", "FALSE"]

namespace Anchors

/-- The name that an entry of a class domain gives: the text of the value that its scalar stands
for. -/
def className? (anchors : Anchors) (item : Node) : Option String :=
  match anchors.target? item with
  | some (.scalar p text plain) => (scalarValue p.tag text plain).toOption.bind Value.scalarText?
  | _ => none

/-- The text of a scalar without a tag, and whether it is plain. -/
def untagged? (anchors : Anchors) (item : Node) : Option (String × Bool) :=
  match anchors.target? item with
  | some (.scalar p text plain) => if p.tag.isNone then some (text, plain) else none
  | _ => none

end Anchors

variable {anchors : Anchors} {item : Node} {name text : String} {plain : Bool} {value : Value}

theorem scalarText?_withTag (tag : Option String) (value : Value) :
    (withTag tag value).scalarText? = value.scalarText? := by
  cases tag with
  | none => rfl
  | some tag =>
    rw [withTag]
    split
    · rw [Value.scalarText?]
    · rfl

/-- A scalar is read as the value that it stands for, with its tag around it. -/
theorem exists_scalarValue_of_readScalar {p : Properties}
    (h : Gives (readScalar p text plain) value) :
    ∃ inner, scalarValue p.tag text plain = .ok inner ∧ value = withTag p.tag inner := by
  rw [readScalar] at h
  split at h
  · exact absurd h not_gives_fail
  · next n hn =>
    split at h
    · exact absurd h not_gives_fail
    · exact ⟨.integer n, hn, (gives_pure_iff.mp h).symm⟩
  · next inner _ hinner => exact ⟨inner, hinner, (gives_pure_iff.mp h).symm⟩

/-- A value that has a text is read from a scalar. -/
theorem exists_readScalar_of_readValue {depth : Nat} {way : Way}
    (h : Gives (readValue anchors depth way item) value) (hname : value.scalarText? = some name) :
    ∃ p text plain, anchors.target? item = some (.scalar p text plain) ∧
      Gives (readScalar p text plain) value := by
  cases depth with
  | zero =>
    obtain ⟨target, htarget, h⟩ := exists_of_gives_bind h
    have h := gives_of_located h
    cases target with
    | scalar p text plain => exact ⟨p, text, plain, target?_of_follow htarget, h⟩
    | _ => exact absurd h not_gives_fail
  | succ depth =>
    obtain ⟨target, htarget, h⟩ := exists_of_gives_bind h
    have h := gives_of_located h
    cases target with
    | scalar p text plain => exact ⟨p, text, plain, target?_of_follow htarget, h⟩
    -- Sequences and mappings have no text, whatever their tags are.
    | sequence | mapping =>
      obtain ⟨parts, -, h⟩ := exists_of_gives_bind h
      rw [← gives_pure_iff.mp h, scalarText?_withTag] at hname
      contradiction
    | _ => exact absurd h not_gives_fail

/-- The text of a value is the name of the entry that it is read from. -/
theorem className?_of_readValue {depth : Nat} {way : Way}
    (h : Gives (readValue anchors depth way item) value) (hname : value.scalarText? = some name) :
    anchors.className? item = some name := by
  obtain ⟨p, text, plain, htarget, hread⟩ := exists_readScalar_of_readValue h hname
  obtain ⟨inner, hinner, rfl⟩ := exists_scalarValue_of_readScalar hread
  rw [scalarText?_withTag] at hname
  simp only [Anchors.className?, htarget, hinner]
  exact hname

/-- The names of the classes of a definition are those of its entries. -/
theorem forall₂_className? {items : List Node} {values : List Value}
    (h : List.Forall₂
      (fun item value => ∃ depth way, Gives (readValue anchors depth way item) value) items values)
    (hscalars : ∀ value ∈ values, ∃ name, value.scalarText? = some name) :
    List.Forall₂ (fun item name => anchors.className? item = some name) items
      (values.filterMap Value.scalarText?) := by
  induction h with
  | nil => exact .nil
  | @cons item value items values hitem _ ih =>
    obtain ⟨⟨name, hname⟩, hscalars⟩ := List.forall_mem_cons.mp hscalars
    obtain ⟨depth, way, hread⟩ := hitem
    rw [List.filterMap_cons_some hname]
    exact .cons (className?_of_readValue hread hname) (ih hscalars)

/-- An identifier that is the text of a plain scalar is the spelling, or the text of a truth
value. -/
theorem eq_of_scalarText?_plainValue (h : (plainValue text).scalarText? = some name)
    (hname : isIdentifier name) :
    name = ((Scalar.boolean? text).map toString).getD text := by
  rw [plainValue, Scalar.ofText] at h
  by_cases hnull : text.isEmpty || Scalar.isNull text
  · rw [if_pos hnull] at h
    contradiction
  rw [if_neg hnull] at h
  cases hboolean : Scalar.boolean? text with
  | some b =>
    rw [hboolean] at h
    cases b <;> exact (Option.some.inj h).symm
  | none =>
    simp only [hboolean] at h
    -- Whole numbers come before the other ones, and digits with a superfluous zero are a text.
    cases hinteger : Scalar.integer? text.toList with
    | some n =>
      simp only [hinteger] at h
      exact absurd (Option.some.inj h ▸ hname) (Number.not_isIdentifier_toString n)
    | none =>
      simp only [hinteger] at h
      by_cases hpadded : Scalar.isPadded (Scalar.withoutSign text.toList)
      · rw [if_pos hpadded] at h
        exact (Option.some.inj h).symm
      · rw [if_neg hpadded] at h
        cases hdecimal : Scalar.decimal? text.toList with
        | some x =>
          simp only [hdecimal] at h
          exact absurd (Option.some.inj h ▸ hname) (Number.not_isIdentifier_text x)
        | none =>
          simp only [hdecimal] at h
          exact (Option.some.inj h).symm

/-- A truth value is spelled like its text unless the word has a capital letter. -/
theorem toString_boolean?_eq_iff (text : String) :
    ((Scalar.boolean? text).map toString).getD text = text ↔ text ∉ respelledWords := by
  rw [Scalar.boolean?]
  split
  · next htrue =>
    simp only [Bool.or_eq_true, beq_iff_eq] at htrue
    rcases htrue with (rfl | rfl) | rfl <;> decide
  · next htrue =>
    split
    · next hfalse =>
      simp only [Bool.or_eq_true, beq_iff_eq] at hfalse
      rcases hfalse with (rfl | rfl) | rfl <;> decide
    · next hfalse =>
      simp only [Bool.or_eq_true, beq_iff_eq, not_or] at htrue hfalse
      simp [respelledWords, htrue, hfalse]

/-- The name of an entry without a tag is its spelling, unless it is one of these words and
plain. -/
theorem className?_eq_spelling_iff (h : anchors.className? item = some name)
    (hname : isIdentifier name) (hitem : anchors.untagged? item = some (text, plain)) :
    name = text ↔ ¬ (plain = true ∧ text ∈ respelledWords) := by
  rw [Anchors.className?] at h
  rw [Anchors.untagged?] at hitem
  split at hitem
  · next p written isPlain htarget =>
    split at hitem
    · next htag =>
      obtain ⟨rfl, rfl⟩ := Prod.mk.inj (Option.some.inj hitem)
      simp only [htarget, Option.isNone_iff_eq_none.mp htag] at h
      cases isPlain with
      | true =>
        rw [eq_of_scalarText?_plainValue h hname, toString_boolean?_eq_iff]
        simp
      | false =>
        obtain rfl : written = name := Option.some.inj h
        simp
    · contradiction
  · contradiction

end Draft

/-! ## The classes of a document -/

namespace Schema

open Draft Document

variable {strict : Bool} {source name : String} {schema : Schema} {classes : List String}

/-- A document with definitions has an outermost node. -/
theorem exists_root_of_ofTree {tree : Tree} {draft : Draft}
    {written : List (String × Draft.Definition)} (h : ofTree tree = .ok draft)
    (hwritten : draft.definitions = some written) :
    ∃ root, tree.root = some root ∧ ofRoot root = .ok draft := by
  obtain ⟨_ | root, ending⟩ := tree
  · obtain ⟨found, hfound, h⟩ := bind_eq_ok_iff.mp h
    obtain rfl := Except.ok.inj hfound
    cases ending with
    | alone =>
      obtain rfl := Except.ok.inj h
      contradiction
    | malformed | followed => contradiction
  · obtain ⟨found, hfound, h⟩ := bind_eq_ok_iff.mp h
    cases ending with
    | alone =>
      obtain rfl := Except.ok.inj h
      exact ⟨root, rfl, hfound⟩
    | malformed | followed => contradiction

/-- The classes of a loaded definition are the usable ones among the names of the
entries in its section. -/
theorem exists_classItems_of_ofText [Document.SyntaxReporter]
    (h : (ofText strict source).outcome = .ok schema)
    (hmem : ⟨name, .classDomain classes⟩ ∈ schema.entries) :
    ∃ root items names, (Tree.ofText source).root = some root ∧
      (Anchors.ofRoot root).classItems? root name = some items ∧
      List.Forall₂ (fun item c => (Anchors.ofRoot root).className? item = some c) items names ∧
      classes = names.filter (Usable .domainClass) := by
  obtain ⟨draft, hdraft, hload⟩ := outcome_ofText_eq_ok_iff.mp h
  obtain ⟨⟨written, hwritten, hloads, hnodup, -⟩, written', hwritten', hentries⟩ :=
    Draft.outcome_load_eq_ok_iff.mp hload
  obtain rfl : written = written' := Option.some.inj (hwritten.symm.trans hwritten')
  -- The definition comes from the one entry of the draft with its name.
  obtain ⟨⟨_, definition⟩, husable, rfl, htag, values, hvalues, hclasses⟩ :=
    exists_of_forall₂ ((List.forall₂_and_left _ _).mpr ⟨fun _ => id, hentries⟩).flip _ hmem
  have hname := List.mem_filter.mp husable
  obtain ⟨root, hroot, hread⟩ := exists_root_of_ofTree hdraft hwritten
  obtain ⟨other, hother, hitems⟩ :=
    exists_classItems_of_ofRoot hread hwritten (List.mem_map_of_mem hname.1)
  obtain rfl : other = definition := by
    have heq := List.inj_on_of_nodup_map hnodup (List.mem_filter.mpr ⟨hother, hname.2⟩) husable rfl
    exact congrArg Prod.snd heq
  obtain ⟨items, hfound, hforall⟩ := hitems values hvalues
  have hscalars : ∀ value ∈ values, ∃ c, value.scalarText? = some c := by
    rcases hloads _ husable with ⟨htag', -⟩ | ⟨-, values', hvalues', hload⟩
    · exact absurd (htag.symm.trans htag') (by decide)
    · exact Option.some.inj (hvalues'.symm.trans hvalues) ▸ hload.scalars
  exact ⟨root, items, values.filterMap Value.scalarText?, hroot, hfound,
    forall₂_className? hforall hscalars, hclasses⟩

/-- An enumeration has a member for every class, with the class as its value. -/
theorem enumeration_mem_module {order : List String}
    (hmem : ⟨name, .classDomain classes⟩ ∈ schema.entries)
    (horder : schema.emissionOrder = .ok order) :
    .enumeration name (classes.map fun c => ⟨memberName c, c⟩) ∈ (schema.module order).classes := by
  have hperm := perm_entriesOf (isArrangement_of_emissionOrder horder).perm
  exact List.mem_map_of_mem (f := fun entry : Entry => entry.definition.declaration entry.name)
    (hperm.symm.subset hmem)

/-- The classes of a definition in a loaded document, and so the values of its enumeration, are
the usable ones among the names of the entries in its section, in their order. The name of an
entry without a tag is its spelling, unless it is plain and one of the words for truth values
with capital letters. -/
theorem classes_as_spelled_iff [Document.SyntaxReporter]
    (h : (ofText strict source).outcome = .ok schema)
    (hmem : ⟨name, .classDomain classes⟩ ∈ schema.entries) :
    ∃ root items names, (Tree.ofText source).root = some root ∧
      (Anchors.ofRoot root).classItems? root name = some items ∧
      List.Forall₂ (fun item c => (Anchors.ofRoot root).className? item = some c ∧
        (Usable .domainClass c → ∀ text plain,
          (Anchors.ofRoot root).untagged? item = some (text, plain) →
          (c = text ↔ ¬ (plain = true ∧ text ∈ respelledWords)))) items names ∧
      classes = names.filter (Usable .domainClass) ∧
      ∀ order, schema.emissionOrder = .ok order →
        .enumeration name (classes.map fun c => ⟨memberName c, c⟩) ∈
          (schema.module order).classes := by
  obtain ⟨root, items, names, hroot, hitems, hnames, hclasses⟩ := exists_classItems_of_ofText h hmem
  refine ⟨root, items, names, hroot, hitems, hnames.imp fun item c hc => ⟨hc, ?_⟩, hclasses,
    fun _ => enumeration_mem_module hmem⟩
  intro husable text plain hitem
  exact className?_eq_spelling_iff hc husable.1 hitem

/-- A class domain with a word for a truth value, and another class. -/
def flagsText : String :=
  "defs:\n  Flag:\n    $def: class_domain\n    classes: [True, red]\n"

/-- The schema of this document. -/
def flags : Schema :=
  ⟨[⟨"Flag", .classDomain ["true", "red"]⟩], by decide⟩

theorem outcome_ofText_flagsText : (ofText true flagsText).outcome = .ok flags := by
  decide +kernel

/-- The entries of this domain with their spellings and their names. -/
theorem classItems_flagsText :
    ((Tree.ofText flagsText).root.bind fun root =>
      ((Anchors.ofRoot root).classItems? root "Flag").map fun items =>
        items.map fun item =>
          ((Anchors.ofRoot root).untagged? item, (Anchors.ofRoot root).className? item)) =
      some [(some ("True", true), some "true"), (some ("red", true), some "red")] := by
  decide +kernel

/-- One class is spelled as in the document, and the other one is not. -/
theorem classes_as_spelled_flags :
    ((ofText true flagsText).outcome = .ok flags ∧
        ⟨"Flag", .classDomain ["true", "red"]⟩ ∈ flags.entries) ∧
      ∃ root items names, (Tree.ofText flagsText).root = some root ∧
        (Anchors.ofRoot root).classItems? root "Flag" = some items ∧
        List.Forall₂ (fun item c => (Anchors.ofRoot root).className? item = some c ∧
          (Usable .domainClass c → ∀ text plain,
            (Anchors.ofRoot root).untagged? item = some (text, plain) →
            (c = text ↔ ¬ (plain = true ∧ text ∈ respelledWords)))) items names ∧
        ["true", "red"] = names.filter (Usable .domainClass) ∧
        ∀ order, flags.emissionOrder = .ok order →
          .enumeration "Flag" (["true", "red"].map fun c => ⟨memberName c, c⟩) ∈
            (flags.module order).classes := by
  have hmem : ⟨"Flag", .classDomain ["true", "red"]⟩ ∈ flags.entries := List.mem_singleton_self _
  exact ⟨⟨outcome_ofText_flagsText, hmem⟩, classes_as_spelled_iff outcome_ofText_flagsText hmem⟩

/-- The entry `True` has no tag and is kept, and the class is not called so. -/
theorem not_classes_as_spelled_flags :
    (ofText true flagsText).outcome = .ok flags ∧
      flags.get? "Flag" = some (.classDomain ["true", "red"]) ∧
      ∃ root items item, (Tree.ofText flagsText).root = some root ∧
        (Anchors.ofRoot root).classItems? root "Flag" = some items ∧ item ∈ items ∧
        (Anchors.ofRoot root).untagged? item = some ("True", true) ∧
        (Anchors.ofRoot root).className? item = some "true" ∧ Usable .domainClass "true" ∧
        "True" ∉ ["true", "red"] := by
  obtain ⟨root, hroot, hfound⟩ := Option.bind_eq_some_iff.mp classItems_flagsText
  obtain ⟨items, hitems, hmap⟩ := Option.map_eq_some_iff.mp hfound
  obtain ⟨item, others, rfl, hitem, -⟩ := List.map_eq_cons_iff.mp hmap
  obtain ⟨huntagged, hname⟩ := Prod.mk.inj hitem
  exact ⟨outcome_ofText_flagsText, by decide, root, _, item, hroot, hitems, List.mem_cons_self,
    huntagged, hname, by decide +kernel, by decide⟩

end Schema

end DatasetSchema
