import DatasetSchema.Draft.OfDocument
import Mathlib.Data.List.Forall2

/-!
# What a reading finds in a document

A draft is read from the nodes of a document with a count of the aliases that are followed. The
count decides only whether the reading goes on. If it does, what is found is told by the nodes
alone: which node an alias stands for, what the items of a sequence are, and which value has a key.

## Main definitions

* `Draft.Reading.Gives`: a reading ends with a result;
* `Draft.Anchors.target?`, `Draft.Anchors.entries?`, `Draft.Anchors.items?`, `Draft.Anchors.value?`:
  what is found at a node;
* `Draft.Anchors.classItems?`: the items of the classes of a definition.

## Main results

* `Draft.classes_of_readSections`, `Draft.definitions_of_readTopSections`: the sections of a draft
  are the first ones with their names;
* `Draft.exists_classItems_of_ofRoot`: where the classes of a definition are read from.
-/

namespace DatasetSchema.Draft

open Document hiding Fault

variable {α β : Type}

/-! ## Results of readings -/

namespace Reading

/-- The reading ends with the result, from some count of aliases on. -/
def Gives (x : Reading α) (a : α) : Prop :=
  ∃ count later, x count = .ok (a, later)

theorem gives_pure_iff {a b : α} : Gives (pure a) b ↔ a = b := by
  constructor
  · rintro ⟨count, later, ⟨⟩⟩
    rfl
  · rintro rfl
    exact ⟨0, 0, rfl⟩

theorem not_gives_fail {fault : Document.Fault} {a : α} : ¬ Gives (fail fault) a := by
  rintro ⟨count, later, ⟨⟩⟩

/-- What comes after a reading is given its result. -/
theorem exists_of_gives_bind {x : Reading α} {f : α → Reading β} {b : β} (h : Gives (x >>= f) b) :
    ∃ a, Gives x a ∧ Gives (f a) b := by
  obtain ⟨count, later, h⟩ := h
  cases hx : x count with
  | error fault =>
    simp only [bind, StateT.bind, hx] at h
    contradiction
  | ok result =>
    obtain ⟨a, middle⟩ := result
    simp only [bind, StateT.bind, hx] at h
    exact ⟨a, ⟨count, middle, hx⟩, ⟨middle, later, h⟩⟩

/-- The place of a mismatch matters only if there is one. -/
theorem gives_of_located {place : Place} {x : Reading α} {a : α} (h : Gives (located place x) a) :
    Gives x a := by
  obtain ⟨count, later, h⟩ := h
  rw [located] at h
  split at h
  · contradiction
  · exact ⟨count, later, h⟩

end Reading

open Reading

/-! ## Nodes behind aliases -/

/-- The node has content of its own. -/
def HasContent : Node → Prop
  | .alias _ _ | .cut _ => False
  | _ => True

namespace Anchors

/-- The node itself, or the one that it is an alias of. -/
def target? (anchors : Anchors) : Node → Option Node
  | .alias _ target => anchors.nodes.lookup target
  | .cut _ => none
  | node => some node

/-- The text of a scalar. -/
def text? (anchors : Anchors) (node : Node) : Option String :=
  match anchors.target? node with
  | some (.scalar _ text _) => some text
  | _ => none

/-- The entries of a mapping. A node without content has none. -/
def entries? (anchors : Anchors) (node : Node) : Option (List (Node × Node)) :=
  match anchors.target? node with
  | some (.mapping _ entries) => some entries
  | some (.scalar _ text plain) => if plain && text.isEmpty then some [] else none
  | _ => none

/-- The items of a sequence. A node without content has none. -/
def items? (anchors : Anchors) (node : Node) : Option (List Node) :=
  match anchors.target? node with
  | some (.sequence _ items) => some items
  | some (.scalar _ text plain) => if plain && text.isEmpty then some [] else none
  | _ => none

/-- The value of the first key with a text. -/
def value? (anchors : Anchors) (name : String) (entries : List (Node × Node)) : Option Node :=
  (entries.find? fun entry => anchors.text? entry.1 == some name).map Prod.snd

section Value

variable {anchors : Anchors} {name other : String} {key value : Node} {entries : List (Node × Node)}

theorem value?_cons_of_eq (h : anchors.text? key = some name) :
    anchors.value? name ((key, value) :: entries) = some value := by
  rw [value?, List.find?_cons_of_pos (by simpa using h), Option.map_some]

theorem value?_cons_of_ne (h : anchors.text? key = some other) (hne : other ≠ name) :
    anchors.value? name ((key, value) :: entries) = anchors.value? name entries := by
  rw [value?, List.find?_cons_of_neg (by simpa [h] using hne), value?]

end Value

end Anchors

/-- All nodes with an anchor have content. -/
def Anchors.Sound (anchors : Anchors) : Prop :=
  ∀ entry ∈ anchors.nodes, HasContent entry.2

mutual

theorem hasContent_of_mem_anchored (node : Node) : ∀ entry ∈ node.anchored, HasContent entry.2 := by
  cases node with
  | scalar p text plain =>
    rw [Node.anchored]
    cases p.anchor <;> simp [HasContent]
  | sequence p items =>
    rw [Node.anchored, List.forall_mem_append]
    refine ⟨?_, hasContent_of_mem_anchoredItems items⟩
    cases p.anchor <;> simp [HasContent]
  | mapping p entries =>
    rw [Node.anchored, List.forall_mem_append]
    refine ⟨?_, hasContent_of_mem_anchoredEntries entries⟩
    cases p.anchor <;> simp [HasContent]
  | _ => exact nofun

theorem hasContent_of_mem_anchoredItems (items : List Node) :
    ∀ entry ∈ Node.anchoredItems items, HasContent entry.2 := by
  cases items with
  | nil => exact nofun
  | cons item items =>
    rw [Node.anchoredItems, List.forall_mem_append]
    exact ⟨hasContent_of_mem_anchored item, hasContent_of_mem_anchoredItems items⟩

theorem hasContent_of_mem_anchoredEntries (entries : List (Node × Node)) :
    ∀ entry ∈ Node.anchoredEntries entries, HasContent entry.2 := by
  cases entries with
  | nil => exact nofun
  | cons entry entries =>
    obtain ⟨key, value⟩ := entry
    rw [Node.anchoredEntries, List.forall_mem_append, List.forall_mem_append]
    exact ⟨⟨hasContent_of_mem_anchored key, hasContent_of_mem_anchored value⟩,
      hasContent_of_mem_anchoredEntries entries⟩

end

theorem Anchors.sound_ofRoot (root : Node) : (Anchors.ofRoot root).Sound := by
  intro entry hentry
  exact hasContent_of_mem_anchored root entry (List.mem_reverse.mp hentry)

section Find

variable {anchors : Anchors} {node target : Node}

theorem Anchors.Sound.hasContent (h : anchors.Sound)
    (htarget : anchors.target? node = some target) : HasContent target := by
  match node with
  | .alias _ n =>
    obtain ⟨before, after, hnodes, -⟩ := List.lookup_eq_some_iff.mp htarget
    exact h (n, target) (hnodes ▸ List.mem_append_right before List.mem_cons_self)
  | .cut _ => contradiction
  | .scalar .. | .sequence .. | .mapping .. =>
    obtain rfl := Option.some.inj htarget
    trivial

/-- What an alias stands for is no alias. -/
theorem Anchors.Sound.target?_target (h : anchors.Sound)
    (htarget : anchors.target? node = some target) :
    anchors.target? target = some target := by
  have hcontent := h.hasContent htarget
  cases target with
  | scalar | sequence | mapping => rfl
  | _ => contradiction

theorem target?_of_follow (h : Gives (follow anchors node) target) :
    anchors.target? node = some target := by
  match node with
  | .alias _ n =>
    obtain ⟨count, later, h⟩ := h
    simp only [follow] at h
    cases hnode : anchors.nodes.lookup n with
    | none =>
      simp only [hnode] at h
      split at h <;> contradiction
    | some found =>
      simp only [hnode] at h
      split at h
      · contradiction
      · cases h
        exact hnode
  | .cut _ => exact absurd h not_gives_fail
  | .scalar .. | .sequence .. | .mapping .. => exact congrArg some (gives_pure_iff.mp h)

theorem text?_of_readText {expected : Expected} {way : Way} {text : String}
    (h : Gives (readText anchors expected way node) text) : anchors.text? node = some text := by
  obtain ⟨target, htarget, h⟩ := exists_of_gives_bind h
  rw [Anchors.text?, target?_of_follow htarget]
  cases target with
  | scalar p other plain => exact congrArg some (gives_pure_iff.mp h)
  | _ => exact absurd (gives_of_located h) not_gives_fail

/-- A section that is there is read from the node that it stands for. -/
theorem exists_target_of_readOptional {read : Node → Reading α} {a : α}
    (h : Gives (readOptional anchors read node) (some a)) :
    ∃ target, anchors.target? node = some target ∧ Gives (read target) a := by
  obtain ⟨target, htarget, h⟩ := exists_of_gives_bind h
  refine ⟨target, target?_of_follow htarget, ?_⟩
  have hread : ∀ {x : Reading α}, Gives (do return some (← x)) (some a) → Gives x a := by
    intro x hx
    obtain ⟨b, hb, hsome⟩ := exists_of_gives_bind hx
    exact Option.some.inj (gives_pure_iff.mp hsome) ▸ hb
  cases target with
  | scalar p text plain =>
    simp only at h
    split at h
    · exact absurd (gives_pure_iff.mp h) nofun
    · exact hread h
    · exact absurd h not_gives_fail
  | _ => exact hread h

theorem entries?_of_readMapping {depth : Nat} {expected : Expected} {way : Way}
    {read : Nat → List (Node × Node) → Reading α} {a : α}
    (h : Gives (readMapping anchors depth expected way read node) a) :
    ∃ inner entries, anchors.entries? node = some entries ∧ Gives (read inner entries) a := by
  obtain ⟨target, htarget, h⟩ := exists_of_gives_bind h
  have h := gives_of_located h
  rw [Anchors.entries?, target?_of_follow htarget]
  cases target with
  | mapping p entries =>
    cases depth with
    | zero => exact absurd h not_gives_fail
    | succ depth => exact ⟨depth, entries, rfl, h⟩
  | scalar p text plain =>
    simp only at h
    split at h
    · next hempty => exact ⟨depth, [], if_pos hempty, h⟩
    · exact absurd h not_gives_fail
  | _ => exact absurd h not_gives_fail

theorem items?_of_readSequence {depth : Nat} {way : Way}
    {read : Nat → List Node → Reading α} {a : α}
    (h : Gives (readSequence anchors depth way read node) a) :
    ∃ inner items, anchors.items? node = some items ∧ Gives (read inner items) a := by
  obtain ⟨target, htarget, h⟩ := exists_of_gives_bind h
  have h := gives_of_located h
  rw [Anchors.items?, target?_of_follow htarget]
  cases target with
  | sequence p items =>
    cases depth with
    | zero => exact absurd h not_gives_fail
    | succ depth => exact ⟨depth, items, rfl, h⟩
  | scalar p text plain =>
    simp only at h
    split at h
    · next hempty => exact ⟨depth, [], if_pos hempty, h⟩
    · exact absurd h not_gives_fail
  | _ => exact absurd h not_gives_fail

/-- A node that an alias stands for has the same items as the alias. -/
theorem Anchors.Sound.items?_target (h : anchors.Sound)
    (htarget : anchors.target? node = some target) :
    anchors.items? target = anchors.items? node := by
  rw [Anchors.items?, Anchors.items?, h.target?_target htarget, htarget]

theorem Anchors.Sound.entries?_target (h : anchors.Sound)
    (htarget : anchors.target? node = some target) :
    anchors.entries? target = anchors.entries? node := by
  rw [Anchors.entries?, Anchors.entries?, h.target?_target htarget, htarget]

end Find

/-! ## Items, entries and sections -/

variable {anchors : Anchors}

theorem forall₂_of_readItems {way : Way} {read : Way → Node → Reading α} {index : Nat}
    {items : List Node} {values : List α} (h : Gives (readItems way read index items) values) :
    List.Forall₂ (fun item value => ∃ way, Gives (read way item) value) items values := by
  induction items generalizing index values with
  | nil =>
    obtain rfl := gives_pure_iff.mp h
    exact .nil
  | cons item items ih =>
    obtain ⟨value, hvalue, h⟩ := exists_of_gives_bind h
    obtain ⟨others, hothers, h⟩ := exists_of_gives_bind h
    obtain rfl := gives_pure_iff.mp h
    exact .cons ⟨_, hvalue⟩ (ih hothers)

/-- The first entry with a name is read as one of the results with the name. -/
theorem exists_value?_of_readNamed {way : Way} {read : Way → Node → Reading α}
    {entries : List (Node × Node)} {named : List (String × α)} {name : String}
    (h : Gives (readNamed anchors way read entries) named) (hname : name ∈ named.map Prod.fst) :
    ∃ value a, anchors.value? name entries = some value ∧ (name, a) ∈ named ∧
      ∃ way, Gives (read way value) a := by
  induction entries generalizing named with
  | nil =>
    obtain rfl := gives_pure_iff.mp h
    contradiction
  | cons entry entries ih =>
    obtain ⟨key, value⟩ := entry
    obtain ⟨other, hother, h⟩ := exists_of_gives_bind h
    obtain ⟨a, ha, h⟩ := exists_of_gives_bind h
    obtain ⟨others, hothers, h⟩ := exists_of_gives_bind h
    obtain rfl := gives_pure_iff.mp h
    have hkey := text?_of_readText hother
    by_cases heq : other = name
    · subst heq
      exact ⟨value, a, Anchors.value?_cons_of_eq hkey, List.mem_cons_self, _, ha⟩
    · rw [List.map_cons, List.mem_cons] at hname
      obtain ⟨found, b, hfound, hb, hread⟩ := ih hothers (hname.resolve_left (Ne.symm heq))
      exact ⟨found, b, (Anchors.value?_cons_of_ne hkey heq).trans hfound,
        List.mem_cons_of_mem _ hb, hread⟩

/-- How the classes of a definition are read. -/
def readClasses (anchors : Anchors) (depth : Nat) (way : Way) : Node → Reading (List Value) :=
  readSequence anchors depth way fun depth => readItems way (readValue anchors depth) 0

/-- The classes of a definition are read from its first section with their name. -/
theorem classes_of_readSections {depth : Nat} {way : Way} {read definition : Definition}
    {seen : List String} {sections : List (Node × Node)}
    (h : Gives (readSections anchors depth way read seen sections) definition) :
    definition.classes = read.classes ∨
      "classes" ∉ seen ∧ ∃ value inner, anchors.value? "classes" sections = some value ∧
        Gives (readOptional anchors (readClasses anchors depth inner) value)
          definition.classes := by
  induction sections generalizing read seen with
  | nil =>
    obtain rfl := gives_pure_iff.mp h
    exact .inl rfl
  | cons entry sections ih =>
    obtain ⟨key, value⟩ := entry
    obtain ⟨name, hname, h⟩ := exists_of_gives_bind h
    have hkey := text?_of_readText hname
    -- A section with another name leaves the classes as they are.
    have hskip : ∀ {read' : Definition} {seen' : List String},
        Gives (readSections anchors depth way read' seen' sections) definition → name ≠ "classes" →
        read'.classes = read.classes → seen ⊆ seen' →
        definition.classes = read.classes ∨
          "classes" ∉ seen ∧ ∃ found inner,
            anchors.value? "classes" ((key, value) :: sections) = some found ∧
            Gives (readOptional anchors (readClasses anchors depth inner) found)
              definition.classes := by
      intro read' seen' hrest hne hread hseen
      rw [Anchors.value?_cons_of_ne hkey hne, ← hread]
      exact (ih hrest).imp_right (And.imp_left fun hnot hmem => hnot (hseen hmem))
    simp only at h
    split at h
    · split at h
      · exact absurd h not_gives_fail
      · next hseen =>
        split at h
        · next hdef =>
          obtain ⟨tag, -, h⟩ := exists_of_gives_bind h
          exact hskip h (by rw [beq_iff_eq.mp hdef]; decide) rfl (List.subset_cons_self _ _)
        · split at h
          · next hfields =>
            obtain ⟨fields, -, h⟩ := exists_of_gives_bind h
            exact hskip h (by rw [beq_iff_eq.mp hfields]; decide) rfl (List.subset_cons_self _ _)
          · next hknown hdef hfields =>
            have hclasses : name = "classes" := by simpa [hdef, hfields] using hknown
            obtain rfl := hclasses
            obtain ⟨classes, hclasses, h⟩ := exists_of_gives_bind h
            refine .inr ⟨fun hmem => hseen (List.contains_iff_mem.mpr hmem), value,
              stepOf key :: way, Anchors.value?_cons_of_eq hkey, ?_⟩
            -- No section of this name can follow, so these are the classes in the end.
            rcases ih h with hread | ⟨hnot, -⟩
            · rw [hread]
              exact hclasses
            · exact absurd List.mem_cons_self hnot
    · next hknown =>
      obtain ⟨-, -, h⟩ := exists_of_gives_bind h
      refine hskip h ?_ rfl (List.Subset.refl _)
      rintro rfl
      exact hknown (by decide)

/-- How the definitions of a document are read. -/
def readDefinitions (anchors : Anchors) (depth : Nat) (way : Way) :
    Node → Reading (List (String × Definition)) :=
  readMapping anchors depth .mapping way fun depth =>
    readNamed anchors way (readDefinition anchors depth)

/-- The definitions of a draft are read from the first section with their name. -/
theorem definitions_of_readTopSections {depth : Nat} {read draft : Draft} {seen : Bool}
    {sections : List (Node × Node)}
    (h : Gives (readTopSections anchors depth read seen sections) draft) :
    draft = read ∨
      seen = false ∧ ∃ value way, anchors.value? "defs" sections = some value ∧
        Gives (readOptional anchors (readDefinitions anchors depth way) value)
          draft.definitions := by
  induction sections generalizing read seen with
  | nil => exact .inl (gives_pure_iff.mp h).symm
  | cons entry sections ih =>
    obtain ⟨key, value⟩ := entry
    obtain ⟨name, hname, h⟩ := exists_of_gives_bind h
    have hkey := text?_of_readText hname
    split at h
    · next hdefs =>
      obtain rfl := beq_iff_eq.mp hdefs
      split at h
      · exact absurd h not_gives_fail
      · next hseen =>
        -- A second section of this name is a fault, so those behind do not change what is read.
        obtain ⟨definitions, hdefinitions, h⟩ := exists_of_gives_bind h
        refine .inr ⟨Bool.eq_false_iff.mpr hseen, value, [stepOf key],
          Anchors.value?_cons_of_eq hkey, ?_⟩
        rcases ih h with rfl | ⟨hnot, -⟩
        · exact hdefinitions
        · contradiction
    · next hdefs =>
      obtain ⟨-, -, h⟩ := exists_of_gives_bind h
      rw [Anchors.value?_cons_of_ne hkey fun heq => hdefs (beq_iff_eq.mpr heq)]
      exact ih h

/-! ## The classes of a definition -/

/-- The items of the classes of a definition: those under its name in the definitions of a
document. -/
def Anchors.classItems? (anchors : Anchors) (root : Node) (name : String) : Option (List Node) := do
  let sections ← anchors.entries? root
  let definitions ← anchors.entries? (← anchors.value? "defs" sections)
  let parts ← anchors.entries? (← anchors.value? name definitions)
  anchors.items? (← anchors.value? "classes" parts)

/-- The classes of a definition are read item by item from the section with their name. -/
theorem exists_items_of_readDefinition {depth : Nat} {way : Way} {node : Node}
    {definition : Definition} {values : List Value} (hanchors : anchors.Sound)
    (h : Gives (readDefinition anchors depth way node) definition)
    (hvalues : definition.classes = some values) :
    ∃ parts value items, anchors.entries? node = some parts ∧
      anchors.value? "classes" parts = some value ∧
      anchors.items? value = some items ∧
      List.Forall₂ (fun item value => ∃ depth way, Gives (readValue anchors depth way item) value)
        items values := by
  obtain ⟨inner, parts, hparts, h⟩ := entries?_of_readMapping h
  rcases classes_of_readSections h with hnone | ⟨-, value, way, hvalue, h⟩
  · rw [hvalues] at hnone
    contradiction
  · rw [hvalues] at h
    obtain ⟨target, htarget, h⟩ := exists_target_of_readOptional h
    obtain ⟨innermost, items, hitems, h⟩ := items?_of_readSequence h
    rw [hanchors.items?_target htarget] at hitems
    refine ⟨parts, value, items, hparts, hvalue, hitems, ?_⟩
    exact (forall₂_of_readItems h).imp fun _ _ ⟨way, hread⟩ => ⟨innermost, way, hread⟩

/-- A draft is what the reading of the outermost node gives. -/
theorem gives_of_ofRoot {root : Node} {draft : Draft} (h : ofRoot root = .ok draft) :
    Gives (readMapping (Anchors.ofRoot root) maxDepth .document []
      (fun depth => readTopSections (Anchors.ofRoot root) depth ⟨none⟩ false) root) draft := by
  rw [ofRoot] at h
  cases hrun : (readMapping (Anchors.ofRoot root) maxDepth .document []
      (fun depth => readTopSections (Anchors.ofRoot root) depth ⟨none⟩ false) root).run 0 with
  | error fault =>
    simp only [hrun] at h
    contradiction
  | ok result =>
    simp only [hrun] at h
    obtain rfl := Except.ok.inj h
    exact ⟨0, result.2, hrun⟩

/-- If a draft has a definition of some name, the items of its classes are found, and they are read
as the classes of a definition of this name. -/
theorem exists_classItems_of_ofRoot {root : Node} {draft : Draft}
    {written : List (String × Definition)} {name : String} (h : ofRoot root = .ok draft)
    (hwritten : draft.definitions = some written)
    (hname : name ∈ written.map Prod.fst) :
    ∃ definition, (name, definition) ∈ written ∧ ∀ values, definition.classes = some values →
      ∃ items, (Anchors.ofRoot root).classItems? root name = some items ∧
        List.Forall₂
          (fun item value => ∃ depth way,
            Gives (readValue (Anchors.ofRoot root) depth way item) value)
          items values := by
  have hanchors := Anchors.sound_ofRoot root
  obtain ⟨depth, sections, hsections, h⟩ := entries?_of_readMapping (gives_of_ofRoot h)
  -- From the root down to the definition, each section is read where the search finds it.
  rcases definitions_of_readTopSections h with rfl | ⟨-, value, way, hvalue, h⟩
  · contradiction
  · rw [hwritten] at h
    obtain ⟨target, htarget, h⟩ := exists_target_of_readOptional h
    obtain ⟨inner, definitions, hdefinitions, h⟩ := entries?_of_readMapping h
    rw [hanchors.entries?_target htarget] at hdefinitions
    obtain ⟨node, definition, hnode, hmem, way, hread⟩ := exists_value?_of_readNamed h hname
    refine ⟨definition, hmem, fun values hvalues => ?_⟩
    obtain ⟨parts, classes, items, hparts, hclasses, hitems, hforall⟩ :=
      exists_items_of_readDefinition hanchors hread hvalues
    refine ⟨items, ?_, hforall⟩
    simp [Anchors.classItems?, hsections, hvalue, hdefinitions, hnode, hparts, hclasses, hitems]

end DatasetSchema.Draft
