import DatasetSchema.Proofs.Declaration.Constructor
import DatasetSchema.Proofs.Draft.Reload

/-!
# The lines of a module

A generated module is a text of lines: for each class one that says what it is, the lines of its
body, and empty lines between the classes. Literals are escaped and names have no blanks, so no line
breaks in two. Then the lines are found in the text, and the classes among the lines, since only the
first line of a class starts like one.

## Main definitions

* `Declaration.unlines`: lines one under the other;
* `Declaration.Class.lines`: the lines of a class;
* `Declaration.Class.IsReadable`: the first line of the class, and no other, is a class line.

## Main results

* `Declaration.toList_renderClasses`: the declarations are written in lines;
* `Declaration.map_lines_eq_of_renderClasses_eq`: declarations with the same text have the same
  lines, class by class.
-/

namespace DatasetSchema

namespace Declaration

/-! ## Lines in a text -/

/-- Lines one under the other, each with a line break at its end. -/
def unlines (lines : List (List Char)) : List Char :=
  lines.flatMap fun line => line ++ ['\n']

section Unlines

variable {lines lines' : List (List Char)} {line : List Char}

@[simp]
theorem unlines_nil : unlines [] = [] := rfl

@[simp]
theorem unlines_cons : unlines (line :: lines) = line ++ '\n' :: unlines lines := by
  simp [unlines]

@[simp]
theorem unlines_append : unlines (lines ++ lines') = unlines lines ++ unlines lines' :=
  List.flatMap_append

theorem unlines_flatMap {α : Type} (l : List α) (f : α → List (List Char)) :
    unlines (l.flatMap f) = l.flatMap fun a => unlines (f a) :=
  List.flatMap_assoc

/-- Lines are found in a text if none of them has a line break. -/
theorem unlines_inj (h : ∀ line ∈ lines, '\n' ∉ line) (h' : ∀ line ∈ lines', '\n' ∉ line)
    (heq : unlines lines = unlines lines') : lines = lines' := by
  induction lines generalizing lines' with
  | nil =>
    cases lines' with
    | nil => rfl
    | cons line lines' => simp at heq
  | cons line lines ih =>
    cases lines' with
    | nil => simp at heq
    | cons line' lines' =>
      obtain ⟨hline, hlines⟩ := List.forall_mem_cons.mp h
      obtain ⟨hline', hlines'⟩ := List.forall_mem_cons.mp h'
      rw [unlines_cons, unlines_cons] at heq
      obtain ⟨rfl, hrest⟩ := append_cons_inj_of_notMem hline hline' heq
      rw [ih hlines hlines' hrest]

end Unlines

variable {c c' : Class} {cs cs' : List Class} {width : Nat} {settings : Settings}

/-! ## The lines of a class -/

namespace Class

/-- The class that a declaration extends. -/
def base : Class → String
  | .struct _ _ => "Struct"
  | .enumeration _ _ => "Enum"

/-- What is assigned in the body of a class. -/
def body : Class → List String
  | .struct _ attributes => attributes.map fun a => a.name ++ " = " ++ a.value.render
  | .enumeration _ members => members.map fun m => m.name ++ " = " ++ literal m.value

/-- The first line of a class. -/
def header (c : Class) : List Char :=
  "class ".toList ++ (c.name.toList ++ ("(".toList ++ (c.base.toList ++ "):".toList)))

/-- The indented lines of the body of a class. -/
def bodyLines (width : Nat) (c : Class) : List (List Char) :=
  (if c.body.isEmpty then ["pass"] else c.body).map fun line =>
    List.replicate width ' ' ++ line.toList

/-- The lines of a class. -/
def lines (width : Nat) (c : Class) : List (List Char) :=
  c.header :: c.bodyLines width

theorem toList_render (width : Nat) (c : Class) :
    (c.render width).toList = unlines (c.lines width) := by
  have hclass : c.render width = classLines width c.name c.base c.body := by
    cases c <;> rfl
  rw [hclass, classLines, lines, bodyLines, unlines_cons, header]
  simp [unlines, String.toList_join, List.flatMap_map]

end Class

/-- The lines of the declarations of a module. -/
def declarationLines (settings : Settings) : List Class → List (List Char)
  | [] => []
  | first :: rest =>
    [[], []] ++ first.lines settings.indentWidth ++
      rest.flatMap fun c => List.replicate settings.blankLines [] ++ c.lines settings.indentWidth

theorem toList_emptyLines (count : Nat) :
    (emptyLines count).toList = unlines (List.replicate count []) := by
  rw [emptyLines, String.toList_ofList, unlines]
  simp [List.flatMap_replicate]

/-- The declarations of a module are written in lines. -/
theorem toList_renderClasses (settings : Settings) (cs : List Class) :
    (renderClasses settings cs).toList = unlines (declarationLines settings cs) := by
  cases cs with
  | nil => rfl
  | cons first rest =>
    rw [renderClasses, declarationLines, String.toList_append, String.toList_join, List.flatMap_map]
    simp [Class.toList_render, toList_emptyLines, unlines_flatMap]

/-! ## Classes among lines -/

/-- The line starts like a class, and not like an assignment to the name `class`. -/
def IsClassLine (line : List Char) : Prop :=
  ∃ c rest, line = "class ".toList ++ c :: rest ∧ c ≠ '='

/-- A line assigns something to a name. -/
def IsAssignment (line : String) : Prop :=
  ∃ name value : String, line = name ++ " = " ++ value ∧
    ' ' ∉ name.toList ∧ '\n' ∉ name.toList ∧ '\n' ∉ value.toList

/-- No line breaks in two, and of all lines of the class the first one is a class line. -/
structure Class.IsReadable (width : Nat) (c : Class) : Prop where
  /-- No line breaks in two. -/
  newline_notMem : ∀ line ∈ c.lines width, '\n' ∉ line
  /-- The first line is a class line. -/
  isClassLine_header : IsClassLine c.header
  /-- No line of the body is one. -/
  not_isClassLine : ∀ line ∈ c.bodyLines width, ¬ IsClassLine line

theorem not_isClassLine_nil : ¬ IsClassLine [] := by
  rintro ⟨c, rest, heq, -⟩
  simp at heq

/-- An indented line is no class line. -/
theorem not_isClassLine_replicate_append {line : List Char} (h : ¬ IsClassLine line) :
    ¬ IsClassLine (List.replicate width ' ' ++ line) := by
  cases width with
  | zero => exact h
  | succ width =>
    rintro ⟨c, rest, heq, -⟩
    simp [List.replicate_succ] at heq

/-- What is assigned to the name `class` goes on with an equals sign, and a class with its name. -/
theorem IsAssignment.not_isClassLine {line : String} (h : IsAssignment line) :
    ¬ IsClassLine line.toList := by
  obtain ⟨name, value, rfl, hspace, -, -⟩ := h
  rintro ⟨c, rest, heq, hc⟩
  have hsplit : name.toList ++ ' ' :: '=' :: ' ' :: value.toList =
      "class".toList ++ ' ' :: c :: rest := by
    simpa using heq
  obtain ⟨-, hequals⟩ := append_cons_inj_of_notMem hspace (by decide) hsplit
  exact hc (List.cons.inj hequals).1.symm

theorem IsAssignment.newline_notMem {line : String} (h : IsAssignment line) :
    '\n' ∉ line.toList := by
  obtain ⟨name, value, rfl, -, hname, hvalue⟩ := h
  simp [hname, hvalue]

/-- A class is readable if its name is an identifier and there are only assignments in its body. -/
theorem Class.isReadable_of_isAssignment (hname : isIdentifier c.name)
    (hbody : ∀ line ∈ c.body, IsAssignment line) : c.IsReadable width := by
  have hidentifier := isName_of_isIdentifier hname
  have hbase : '\n' ∉ c.base.toList := by
    cases c <;> simp [base]
  -- A body without assignments has the line `pass`.
  have hlines : ∀ line ∈ if c.body.isEmpty then ["pass"] else c.body,
      '\n' ∉ line.toList ∧ ¬ IsClassLine line.toList := by
    split
    · refine List.forall_mem_singleton.mpr ⟨by decide, ?_⟩
      rintro ⟨d, rest, heq, -⟩
      simp at heq
    · exact fun line hline =>
        ⟨(hbody line hline).newline_notMem, (hbody line hline).not_isClassLine⟩
  constructor
  · rw [lines, bodyLines, List.forall_mem_cons, List.forall_mem_map]
    have hname : '\n' ∉ c.name.toList := hidentifier.notMem (isNameChar_punctuation (by decide))
    refine ⟨?_, fun line hline => ?_⟩
    · simp [header, hbase, hname]
    · simp [(hlines line hline).1]
  · obtain ⟨first, others, hfirst⟩ := List.exists_cons_of_ne_nil hidentifier.1
    refine ⟨first, others ++ ("(".toList ++ (c.base.toList ++ "):".toList)), ?_, ?_⟩
    · rw [header, hfirst, List.cons_append]
    · rintro rfl
      exact hidentifier.notMem (isNameChar_punctuation (by decide)) (hfirst ▸ List.mem_cons_self)
  · rw [bodyLines, List.forall_mem_map]
    exact fun line hline => not_isClassLine_replicate_append (hlines line hline).2

/-- Classes are told apart by their first lines, however many empty lines are between them. -/
theorem map_lines_eq_of_append_eq {blank body body' : List (List Char)}
    (hblank : ∀ line ∈ blank, ¬ IsClassLine line) (hbody : ∀ line ∈ body, ¬ IsClassLine line)
    (hbody' : ∀ line ∈ body', ¬ IsClassLine line) (hcs : ∀ c ∈ cs, c.IsReadable width)
    (hcs' : ∀ c ∈ cs', c.IsReadable width)
    (h : (body ++ cs.flatMap fun c => blank ++ c.lines width) =
      body' ++ cs'.flatMap fun c => blank ++ c.lines width) :
    body = body' ∧ cs.map (Class.lines width) = cs'.map (Class.lines width) := by
  have hnext : ∀ (body : List (List Char)) (c : Class) (cs : List Class),
      (body ++ (c :: cs).flatMap fun c => blank ++ c.lines width) =
        (body ++ blank) ++ c.header ::
          (c.bodyLines width ++ cs.flatMap fun c => blank ++ c.lines width) := by
    simp [Class.lines]
  -- No class starts in the body of another one.
  have hstart : ∀ {body before after : List (List Char)} {c : Class}, c.IsReadable width →
      (∀ line ∈ body, ¬ IsClassLine line) → body ≠ before ++ c.header :: after := by
    rintro _ before after c hc hbody rfl
    exact hbody c.header (by simp) hc.isClassLine_header
  induction cs generalizing body body' cs' with
  | nil =>
    rw [List.flatMap_nil, List.append_nil] at h
    cases cs' with
    | nil => exact ⟨by simpa using h, rfl⟩
    | cons c' cs' =>
      rw [hnext] at h
      exact absurd h (hstart (hcs' c' List.mem_cons_self) hbody)
  | cons c cs ih =>
    obtain ⟨hc, hcs⟩ := List.forall_mem_cons.mp hcs
    rw [hnext] at h
    cases cs' with
    | nil =>
      rw [List.flatMap_nil, List.append_nil] at h
      exact absurd h.symm (hstart hc hbody')
    | cons c' cs' =>
      obtain ⟨hc', hcs'⟩ := List.forall_mem_cons.mp hcs'
      rw [hnext] at h
      obtain ⟨hlines, hheader, hrest⟩ := append_cons_inj
        (List.forall_mem_append.mpr ⟨hbody, hblank⟩) (List.forall_mem_append.mpr ⟨hbody', hblank⟩)
        (not_not.mpr hc.isClassLine_header) (not_not.mpr hc'.isClassLine_header) h
      obtain ⟨hbodyLines, hmap⟩ := ih hc.not_isClassLine hc'.not_isClassLine hcs hcs' hrest
      refine ⟨List.append_cancel_right hlines, ?_⟩
      rw [List.map_cons, List.map_cons, hmap, Class.lines, Class.lines, hheader, hbodyLines]

/-- The lines of a module are those of its classes and empty ones. -/
theorem newline_notMem_declarationLines (hcs : ∀ c ∈ cs, c.IsReadable settings.indentWidth) :
    ∀ line ∈ declarationLines settings cs, '\n' ∉ line := by
  cases cs with
  | nil => exact nofun
  | cons c cs =>
    obtain ⟨hc, hcs⟩ := List.forall_mem_cons.mp hcs
    intro line hline
    simp only [declarationLines, List.mem_append, List.mem_flatMap, List.mem_replicate,
      List.mem_cons, List.not_mem_nil, or_false, or_self] at hline
    rcases hline with (rfl | hline) | ⟨d, hd, ⟨-, rfl⟩ | hline⟩
    · exact List.not_mem_nil
    · exact hc.newline_notMem line hline
    · exact List.not_mem_nil
    · exact (hcs d hd).newline_notMem line hline

/-- Readable declarations with the same text have the same lines, class by class. -/
theorem map_lines_eq_of_renderClasses_eq (hcs : ∀ c ∈ cs, c.IsReadable settings.indentWidth)
    (hcs' : ∀ c ∈ cs', c.IsReadable settings.indentWidth)
    (h : renderClasses settings cs = renderClasses settings cs') :
    cs.map (Class.lines settings.indentWidth) = cs'.map (Class.lines settings.indentWidth) := by
  have htext := congrArg String.toList h
  rw [toList_renderClasses, toList_renderClasses] at htext
  have hlines := unlines_inj (newline_notMem_declarationLines hcs)
    (newline_notMem_declarationLines hcs') htext
  cases cs with
  | nil =>
    cases cs' with
    | nil => rfl
    | cons c' cs' => simp [declarationLines] at hlines
  | cons c cs =>
    cases cs' with
    | nil => simp [declarationLines] at hlines
    | cons c' cs' =>
      obtain ⟨hc, hcs⟩ := List.forall_mem_cons.mp hcs
      obtain ⟨hc', hcs'⟩ := List.forall_mem_cons.mp hcs'
      have hblank : ∀ line ∈ List.replicate settings.blankLines [], ¬ IsClassLine line := by
        intro line hline
        rw [List.eq_of_mem_replicate hline]
        exact not_isClassLine_nil
      simp only [declarationLines, Class.lines, List.cons_append, List.nil_append, List.cons.injEq,
        true_and] at hlines
      obtain ⟨hheader, hrest⟩ := hlines
      -- Where the first class ends is seen by the next class line, for no line of a body is one.
      obtain ⟨hbody, hmap⟩ :=
        map_lines_eq_of_append_eq hblank hc.not_isClassLine hc'.not_isClassLine hcs hcs' hrest
      rw [List.map_cons, List.map_cons, hmap, Class.lines, Class.lines, hheader, hbody]

end Declaration

end DatasetSchema
