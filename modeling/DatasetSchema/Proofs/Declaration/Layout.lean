import DatasetSchema.Proofs.Declaration.Scope
import DatasetSchema.Proofs.Text.Uppercase
import Mathlib.Data.List.Forall2

/-!
# The layout of a generated module

The text of a module splits into its lines: the header and the imports, then for each definition the
lines of its class, in the order of emission. Two empty lines stand before the first class and as
many as the settings say between two classes. No other line is empty, for no name or text of a
loaded schema brings in a line break, a class without members has the line `pass`, and a name in
upper case is not empty.

## Main definitions

* `Declaration.IsIndented`: a line with exactly so many spaces before its first other character;
* `Entry.IsBlock`: the lines that declare a definition;
* `Declaration.layout`: blocks of lines, with empty lines before the first one and between two.

## Main results

* `Declaration.splitOn_unlines`: lines without line breaks are what their text splits into;
* `Entry.WellFormed.isBlock`: a class is a line that names it and an indented line for each member;
* `Settings.splitOn_generate`: the lines of a module.
-/

namespace DatasetSchema

/-! ## Lines of a text -/

namespace Declaration

variable {lines : List (List Char)}

theorem unlines_eq_intercalate (lines : List (List Char)) :
    unlines lines = ['\n'].intercalate (lines ++ [[]]) := by
  induction lines with
  | nil => rfl
  | cons line lines ih =>
    rw [unlines_cons, List.cons_append, List.intercalate_cons_of_ne_nil (by simp), ih]
    simp

/-- Lines without line breaks are what their text splits into, with nothing after the last line
break. -/
theorem splitOn_unlines (h : ∀ line ∈ lines, '\n' ∉ line) :
    (unlines lines).splitOn '\n' = lines ++ [[]] := by
  rw [unlines_eq_intercalate]
  apply List.splitOn_intercalate
  · rw [List.forall_mem_append]
    exact ⟨h, List.forall_mem_singleton.mpr List.not_mem_nil⟩
  · exact List.append_ne_nil_of_right_ne_nil _ (List.cons_ne_nil _ _)

/-- A text ends with exactly one line break if its last line is not empty. -/
theorem exists_append_of_unlines {front : List (List Char)} {line : List Char} (hne : line ≠ [])
    (hline : '\n' ∉ line) : ∃ text c, unlines (front ++ [line]) = text ++ [c, '\n'] ∧ c ≠ '\n' := by
  obtain ⟨start, c, rfl⟩ := line.eq_nil_or_concat.resolve_left hne
  refine ⟨unlines front ++ start, c, by simp, ?_⟩
  rintro rfl
  exact hline (by simp)

end Declaration

/-! ## The block of a definition -/

namespace Declaration

/-- The line has exactly so many spaces before its first other character, and it has such a
character. -/
def IsIndented (width : Nat) (line : List Char) : Prop :=
  ∃ c rest, line = List.replicate width ' ' ++ c :: rest ∧ c ≠ ' '

theorem IsIndented.ne_nil {width : Nat} {line : List Char} (h : IsIndented width line) :
    line ≠ [] := by
  obtain ⟨c, rest, rfl, -⟩ := h
  exact List.append_ne_nil_of_right_ne_nil _ (List.cons_ne_nil _ _)

/-- A line that starts with a name without spaces is indented by what stands before it. -/
theorem isIndented_replicate_append {width : Nat} {name : List Char} (rest : List Char)
    (hne : name ≠ []) (hspace : ' ' ∉ name) :
    IsIndented width (List.replicate width ' ' ++ (name ++ rest)) := by
  obtain ⟨c, others, rfl⟩ := List.exists_cons_of_ne_nil hne
  refine ⟨c, others ++ rest, rfl, ?_⟩
  rintro rfl
  exact hspace List.mem_cons_self

end Declaration

open Declaration

/-- The number of fields or classes. -/
def Definition.memberCount : Definition → Nat
  | .struct fields => fields.length
  | .classDomain classes => classes.length

/-- The lines that declare a definition: one that names it, and an indented line for each field or
class, or one line if there is none. -/
structure Entry.IsBlock (width : Nat) (entry : Entry) (block : List (List Char)) : Prop where
  /-- The first line is for a class with the name of the definition. -/
  header : ∃ rest, block.head? = some ("class ".toList ++ (entry.name.toList ++ '(' :: rest))
  /-- There is a line for each field or class, or one if there is none. -/
  length_body : block.tail.length = max 1 entry.definition.memberCount
  /-- All other lines are indented. -/
  isIndented : ∀ line ∈ block.tail, IsIndented width line

theorem Entry.IsBlock.nil_notMem {width : Nat} {entry : Entry} {block : List (List Char)}
    (h : entry.IsBlock width block) : [] ∉ block := by
  obtain ⟨rest, hheader⟩ := h.header
  obtain ⟨body, rfl⟩ := List.head?_eq_some_iff.mp hheader
  rw [List.mem_cons, not_or]
  refine ⟨?_, fun hbody => (h.isIndented [] hbody).ne_nil rfl⟩
  exact (List.append_ne_nil_of_left_ne_nil (by decide) _).symm

namespace Definition

variable {name : String} {definition : Definition} {width : Nat}

theorem length_body_declaration (name : String) (definition : Definition) :
    (definition.declaration name).body.length = definition.memberCount := by
  cases definition with
  | struct fields => rw [declaration, Class.body, List.length_map, List.length_map, memberCount]
  | classDomain classes =>
    rw [declaration, Class.body, List.length_map, List.length_map, memberCount]

/-- A line of a body starts with the name of a field, or with a class name in upper case. -/
theorem isIndented_body (h : definition.WellFormed) :
    ∀ line ∈ (definition.declaration name).body,
      IsIndented width (List.replicate width ' ' ++ line.toList) := by
  cases definition with
  | struct fields =>
    rw [declaration, Class.body, List.map_map, List.forall_mem_map]
    intro field hfield
    have hname := isName_of_isIdentifier (h.isIdentifier field hfield)
    show IsIndented width (_ ++ (field.name ++ " = " ++ field.type.constructor.render).toList)
    rw [String.toList_append, String.toList_append, List.append_assoc]
    exact isIndented_replicate_append _ hname.1 (hname.notMem (isNameChar_punctuation (by decide)))
  | classDomain classes =>
    rw [declaration, Class.body, List.map_map, List.forall_mem_map]
    intro c hc
    have hidentifier := h.isIdentifier c hc
    show IsIndented width (_ ++ (memberName c ++ " = " ++ literal c).toList)
    rw [String.toList_append, String.toList_append, List.append_assoc]
    exact isIndented_replicate_append _ (toList_memberName_ne_nil hidentifier)
      (notMem_memberName hidentifier (.inl rfl))

end Definition

/-- The lines of the class of an entry. -/
def Entry.lines (width : Nat) (entry : Entry) : List (List Char) :=
  (entry.definition.declaration entry.name).lines width

/-- A class is a line that names it and an indented line for each member, or `pass`. -/
theorem Entry.WellFormed.isBlock {entry : Entry} (h : entry.WellFormed) (width : Nat) :
    entry.IsBlock width (entry.lines width) := by
  have hlength := Definition.length_body_declaration entry.name entry.definition
  constructor
  · have hname : (entry.definition.declaration entry.name).name = entry.name := by
      cases entry.definition <;> rfl
    rw [lines, Class.lines, Class.header, hname]
    exact ⟨_, rfl⟩
  · show (Class.bodyLines width _).length = _
    rw [Class.bodyLines, List.length_map, ← hlength]
    split
    · next hnil =>
      rw [List.isEmpty_iff.mp hnil]
      rfl
    · next hcons =>
      rw [List.isEmpty_iff, ← ne_eq, ← List.length_pos_iff] at hcons
      exact (Nat.max_eq_right hcons).symm
  · show ∀ line ∈ Class.bodyLines width _, _
    rw [Class.bodyLines, List.forall_mem_map]
    split
    · rw [List.forall_mem_singleton]
      exact ⟨'p', "ass".toList, rfl, by decide⟩
    · exact Definition.isIndented_body h.definition

/-! ## Blocks among empty lines -/

namespace Declaration

/-- Blocks of lines: two empty lines before the first one, and so many between two. -/
def layout (blankLines : Nat) (blocks : List (List (List Char))) : List (List Char) :=
  if blocks.isEmpty then [] else [[], []] ++ (List.replicate blankLines []).intercalate blocks

/-- The lines of declarations are laid out as blocks. -/
theorem declarationLines_eq_layout (settings : Settings) (cs : List Class) :
    declarationLines settings cs =
      layout settings.blankLines (cs.map (Class.lines settings.indentWidth)) := by
  cases cs with
  | nil => rfl
  | cons first rest =>
    rw [List.map_cons, layout, intercalate_cons_eq_flatMap, declarationLines, List.flatMap_map]
    simp

/-- The last line of a layout is the last line of a block. -/
theorem exists_append_of_layout (blankLines : Nat) {blocks : List (List (List Char))}
    (hne : blocks ≠ []) :
    ∃ before, ∃ block ∈ blocks, layout blankLines blocks = before ++ block := by
  obtain ⟨first, rest, rfl⟩ := List.exists_cons_of_ne_nil hne
  rw [layout, intercalate_cons_eq_flatMap]
  rcases rest.eq_nil_or_concat with rfl | ⟨others, last, rfl⟩
  · exact ⟨[[], []], first, List.mem_cons_self, by simp⟩
  · refine ⟨[[], []] ++ (first ++ (others.flatMap (List.replicate blankLines [] ++ ·) ++
      List.replicate blankLines [])), last, by simp, by simp⟩

/-- The lines before the declarations of every module. -/
def preamble : List (List Char) :=
  ["# Generated by the dsdl parser. DO NOT EDIT!".toList, [], "from dsdl.types import *".toList,
    "from enum import Enum".toList]

theorem newline_notMem_preamble : ∀ line ∈ preamble, '\n' ∉ line := by
  decide

/-- The last line of a module is one of an import or of a block, and so it is not empty. -/
theorem exists_last_line {blankLines : Nat} {blocks : List (List (List Char))}
    (h : ∀ block ∈ blocks, block ≠ [] ∧ [] ∉ block) :
    ∃ front line, preamble ++ layout blankLines blocks = front ++ [line] ∧ line ≠ [] := by
  by_cases hne : blocks = []
  · subst hne
    exact ⟨preamble.dropLast, "from enum import Enum".toList, rfl, by decide⟩
  · obtain ⟨before, block, hblock, heq⟩ := exists_append_of_layout blankLines hne
    obtain ⟨start, line, rfl⟩ := block.eq_nil_or_concat.resolve_left (h block hblock).1
    refine ⟨preamble ++ (before ++ start), line, by simp [heq], ?_⟩
    rintro rfl
    exact (h _ hblock).2 (by simp)

end Declaration

namespace Schema

variable {schema : Schema} {order : List String} {settings : Settings}

/-- The blocks of the definitions of the given names. -/
def blocks (schema : Schema) (order : List String) (width : Nat) : List (List (List Char)) :=
  (schema.entriesOf order).map (Entry.lines width)

theorem toList_render_module (schema : Schema) (order : List String) (settings : Settings) :
    ((schema.module order).render settings).toList =
      unlines (preamble ++ layout settings.blankLines
        (schema.blocks order settings.indentWidth)) := by
  have hclasses : (schema.module order).classes.map (Class.lines settings.indentWidth) =
      schema.blocks order settings.indentWidth := by
    rw [module, List.map_map]
    rfl
  have hpreamble : ("# " ++ header ++ "\n\n" ++ String.join (imports.map Import.line)).toList =
      unlines preamble := by
    decide +kernel
  rw [Module.render, String.toList_append, toList_renderClasses, declarationLines_eq_layout,
    hclasses, unlines_append]
  exact congrArg (· ++ _) hpreamble

/-- Every definition has its block, in the given order. -/
theorem forall₂_blocks (h : schema.WellFormed) (horder : order.Perm schema.names) (width : Nat) :
    List.Forall₂
      (fun name block => ∃ definition, schema.get? name = some definition ∧
        Entry.IsBlock width ⟨name, definition⟩ block)
      order (schema.blocks order width) := by
  -- The names are those of the entries that are declared.
  rw [← map_name_entriesOf horder.subset, blocks, List.forall₂_map_left_iff,
    map_name_entriesOf horder.subset, List.forall₂_map_right_iff, List.forall₂_same]
  intro entry hentry
  have hmem := (perm_entriesOf horder).subset hentry
  exact ⟨entry.definition, get?_eq_some_iff.mpr hmem, (h.entry entry hmem).isBlock width⟩

theorem newline_notMem_layout (h : schema.WellFormed) (horder : order.Perm schema.names) :
    ∀ line ∈ layout settings.blankLines (schema.blocks order settings.indentWidth),
      '\n' ∉ line := by
  have hreadable : ∀ c ∈ (schema.module order).classes, c.IsReadable settings.indentWidth := by
    rw [module, List.forall_mem_map]
    intro entry hentry
    have hentry := h.entry entry ((perm_entriesOf horder).subset hentry)
    exact Definition.isReadable_declaration hentry.isIdentifier hentry.definition
  have hlines := newline_notMem_declarationLines hreadable
  rw [declarationLines_eq_layout, module, List.map_map] at hlines
  exact hlines

end Schema

namespace Settings

variable {settings : Settings} {draft : Draft} {schema : Schema} {strict : Bool} {text : String}

/-- The lines of the module of a loaded schema: the header, an empty line, the imports, and
the blocks of the definitions in the order of emission. No line of a block is empty, and one
line break ends the text. -/
theorem splitOn_generate (settings : Settings) (hload : (draft.load strict).outcome = .ok schema)
    (hgenerate : (settings.generate schema).outcome = .ok text) :
    ∃ order blocks, schema.emissionOrder = .ok order ∧ order.Perm schema.names ∧
      List.Forall₂
        (fun name block => ∃ definition, schema.get? name = some definition ∧
          Entry.IsBlock settings.indentWidth ⟨name, definition⟩ block)
        order blocks ∧
      text.toList.splitOn '\n' = preamble ++ layout settings.blankLines blocks ++ [[]] ∧
      (∀ block ∈ blocks, [] ∉ block) ∧
      ∃ front c, text.toList = front ++ [c, '\n'] ∧ c ≠ '\n' := by
  obtain ⟨order, horder, rfl⟩ := outcome_generate_eq_ok_iff.mp hgenerate
  have hwell := Draft.wellFormed_of_load hload
  have hperm := (Schema.isArrangement_of_emissionOrder horder).perm
  -- No line has a line break in it, so the text is split into the lines that it was made of.
  have hnewline :
      ∀ line ∈ preamble ++ layout settings.blankLines (schema.blocks order settings.indentWidth),
      '\n' ∉ line :=
    List.forall_mem_append.mpr ⟨newline_notMem_preamble, Schema.newline_notMem_layout hwell hperm⟩
  have hblocks : ∀ block ∈ schema.blocks order settings.indentWidth, block ≠ [] ∧ [] ∉ block := by
    rw [Schema.blocks, List.forall_mem_map]
    intro entry hentry
    have hentry := hwell.entry entry ((Schema.perm_entriesOf hperm).subset hentry)
    exact ⟨List.cons_ne_nil _ _, (hentry.isBlock settings.indentWidth).nil_notMem⟩
  refine ⟨order, schema.blocks order settings.indentWidth, horder, hperm,
    Schema.forall₂_blocks hwell hperm settings.indentWidth, ?_,
    fun block hblock => (hblocks block hblock).2, ?_⟩
  · rw [Schema.toList_render_module, splitOn_unlines hnewline]
  · -- The last line is not empty, so what stands before the last line break is no line break.
    obtain ⟨front, line, heq, hne⟩ := exists_last_line hblocks
    have hline : '\n' ∉ line :=
      hnewline line (heq ▸ List.mem_append_right front (List.mem_singleton_self line))
    rw [Schema.toList_render_module, heq]
    exact exists_append_of_unlines hne hline

/-- The lines of a module with an enumeration and a struct, and no empty line between them. -/
theorem splitOn_generate_photos :
    ((Schema.photos.toDraft.load true).outcome = .ok Schema.photos ∧
        ((⟨true, 2, 0⟩ : Settings).generate Schema.photos).outcome = .ok photosText) ∧
      ∃ order blocks, Schema.photos.emissionOrder = .ok order ∧ order.Perm Schema.photos.names ∧
        List.Forall₂
          (fun name block => ∃ definition, Schema.photos.get? name = some definition ∧
            Entry.IsBlock 2 ⟨name, definition⟩ block)
          order blocks ∧
        photosText.toList.splitOn '\n' = preamble ++ layout 0 blocks ++ [[]] ∧
        (∀ block ∈ blocks, [] ∉ block) ∧
        ∃ front c, photosText.toList = front ++ [c, '\n'] ∧ c ≠ '\n' := by
  have hload : (Schema.photos.toDraft.load true).outcome = .ok Schema.photos := by decide +kernel
  exact ⟨⟨hload, outcome_generate_photos⟩,
    splitOn_generate ⟨true, 2, 0⟩ hload outcome_generate_photos⟩

end Settings

end DatasetSchema
