import DatasetSchema.Proofs.Declaration.Line
import DatasetSchema.Proofs.Text.PythonLiteral

/-!
# Text literals in a module

A text stands in the lines of a module as a literal: the value of a member, or an argument of a
constructor at any depth. Wherever it stands, Python reads the literal up to its last character and
finds the text again, unless the text has a carriage return, which ends the line inside the literal,
or a NUL, which no source may have. All other characters are escaped where they must be.

## Main definitions

* `Declaration.HasText`: a text among arguments, with what is written before and after it;
* `Declaration.Class.HasText`: a text in a line of a class.

## Main results

* `Declaration.readLiteral_literal`: what Python reads of a literal;
* `Declaration.readLiteral_render`: what Python reads of the literals of a module.
-/

namespace DatasetSchema.Declaration

open Python

/-! ## Reading a literal -/

section Reading

variable {characterNames : List Char → Option Nat} {rest : List Char}

/-- What is written for a character is read as the character, unless it is a carriage return or a
NUL. -/
theorem readQuoted_literalChar (c : Char) (rest : List Char) :
    readQuoted characterNames (literalChar c ++ rest) =
      if c = '\r' ∨ c = '\x00' then none
      else (readQuoted characterNames rest).map fun (value, rest) => (c.toNat :: value, rest) := by
  rcases literalChar_cases c with
    ⟨rfl, hc⟩ | ⟨rfl, hc⟩ | ⟨rfl, hc⟩ | ⟨⟨hbackslash, hquote, hnewline⟩, hc⟩
  · have hescape : escape? characterNames ('\\' :: rest) = some (['\\'.toNat], 1) := rfl
    rw [hc, if_neg (by decide)]
    exact readQuoted_escape hescape
  · have hescape : escape? characterNames ('"' :: rest) = some (['"'.toNat], 1) := rfl
    rw [hc, if_neg (by decide)]
    exact readQuoted_escape hescape
  · have hescape : escape? characterNames ('n' :: rest) = some (['\n'.toNat], 1) := rfl
    rw [hc, if_neg (by decide)]
    exact readQuoted_escape hescape
  · rw [hc]
    split
    · next hend => exact readQuoted_lineEnd (.inr hend)
    · next hend => exact readQuoted_other hquote (not_or.mpr ⟨hnewline, hend⟩) hbackslash

theorem readQuoted_flatMap_literalChar (value rest : List Char) :
    readQuoted characterNames (value.flatMap literalChar ++ '"' :: rest) =
      if '\r' ∈ value ∨ '\x00' ∈ value then none else some (value.map Char.toNat, rest) := by
  induction value with
  | nil => exact readQuoted_quote
  | cons c value ih =>
    rw [List.flatMap_cons, List.append_assoc, readQuoted_literalChar, ih]
    simp only [List.mem_cons, List.map_cons]
    split
    · next hc => grind
    · next hc => grind

/-- A literal is read up to its last character and as its text, if another quote does not follow and
the text has no carriage return and no NUL. Otherwise it is not a literal. -/
theorem readLiteral_literal (text : String) (hrest : rest.head? ≠ some '"') :
    readLiteral characterNames ((literal text).toList ++ rest) =
      if '\r' ∈ text.toList ∨ '\x00' ∈ text.toList then none
      else some (text.toList.map Char.toNat, rest) := by
  rw [toList_literal, List.cons_append, List.append_assoc, List.singleton_append, readLiteral_quote,
    readQuoted_flatMap_literalChar]
  -- The literal of the empty text has two quotes, and a third one would open another form.
  intro tail heq
  cases htext : text.toList with
  | nil =>
    rw [htext] at heq
    exact hrest (by rw [(List.cons.inj heq).2]; rfl)
  | cons c cs =>
    rw [htext, List.flatMap_cons, List.append_assoc] at heq
    exact literalChar_append_ne heq

end Reading

/-! ## Texts in a line -/

/-- What is written after an argument of a list, up to the end of the list. -/
def laterArguments : List (String × Argument) → String
  | [] => ""
  | next :: rest => ", " ++ renderArguments (next :: rest)

/-- A text is an argument of a list or of a call in the list, with what is written in the list
before its literal and after it. -/
inductive HasText : List (String × Argument) → (before : List Char) → String →
    (after : List Char) → Prop
  | here (name text : String) (rest : List (String × Argument)) :
      HasText ((name, .text text) :: rest) (name.toList ++ ['=']) text (laterArguments rest).toList
  | inside {callee text : String} {arguments : List (String × Argument)} {before after : List Char}
      (name : String) (rest : List (String × Argument)) :
      HasText arguments before text after →
      HasText ((name, .call callee arguments) :: rest)
        (name.toList ++ '=' :: (callee.toList ++ '(' :: before)) text
        (after ++ ')' :: (laterArguments rest).toList)
  | later {text : String} {rest : List (String × Argument)} {before after : List Char}
      (first : String × Argument) :
      HasText rest before text after →
      HasText (first :: rest)
        (first.1.toList ++ '=' :: (first.2.render.toList ++ ", ".toList ++ before)) text after

/-- A text stands in a line of the body of a class, with what is written in the line before its
literal, apart from the indentation, and after it. -/
inductive Class.HasText : Class → (before : List Char) → String → (after : List Char) → Prop
  | ofAttribute {attributes : List Attribute} {a : Attribute} {text : String}
      {before after : List Char} (name : String) :
      a ∈ attributes → Declaration.HasText a.value.arguments before text after →
      HasText (.struct name attributes)
        (a.name.toList ++ " = ".toList ++ a.value.callee.toList ++ '(' :: before) text
        (after ++ [')'])
  | ofMember {members : List Member} {m : Member} (name : String) :
      m ∈ members → HasText (.enumeration name members) (m.name.toList ++ " = ".toList) m.value []

section Lines

variable {arguments rest : List (String × Argument)} {before after : List Char}
  {text : String} {c : Class}

theorem toList_renderArguments_cons (name : String) (argument : Argument)
    (rest : List (String × Argument)) :
    (renderArguments ((name, argument) :: rest)).toList =
      name.toList ++ '=' :: (argument.render.toList ++ (laterArguments rest).toList) := by
  cases rest with
  | nil => simp [renderArguments, laterArguments]
  | cons next rest =>
    rw [renderArguments, laterArguments]
    · simp
    · exact List.cons_ne_nil _ _

/-- A list of arguments is written with the literals of its texts. -/
theorem HasText.toList_renderArguments (h : HasText arguments before text after) :
    (renderArguments arguments).toList = before ++ ((literal text).toList ++ after) := by
  induction h with
  | here name text rest =>
    rw [toList_renderArguments_cons, Argument.render]
    simp
  | inside name rest _ ih =>
    rw [toList_renderArguments_cons, Argument.render]
    simp [ih]
  | @later text rest before after first htext ih =>
    -- There is another argument after the first one, since a text is among them.
    obtain ⟨next, rest, rfl⟩ : ∃ next rest', rest = next :: rest' := by
      cases htext with
      | here => exact ⟨_, _, rfl⟩
      | inside => exact ⟨_, _, rfl⟩
      | later => exact ⟨_, _, rfl⟩
    rw [toList_renderArguments_cons, laterArguments, String.toList_append, ih]
    simp

/-- A literal among arguments comes directly after the equals sign of its name. -/
theorem HasText.getLast?_before (h : HasText arguments before text after) :
    before.getLast? = some '=' := by
  induction h with
  | here => exact List.getLast?_concat
  | inside name rest _ ih =>
    rw [List.getLast?_append, List.getLast?_cons, List.getLast?_append, List.getLast?_cons, ih]
    rfl
  | later first _ ih =>
    rw [List.getLast?_append, List.getLast?_cons, List.getLast?_append, ih]
    rfl

/-- A literal among arguments is followed by a comma, by the parenthesis of a call, or by
nothing. -/
theorem HasText.head?_after (h : HasText arguments before text after) : after.head? ≠ some '"' := by
  induction h with
  | here name text rest => cases rest <;> simp [laterArguments]
  | @inside callee text arguments before after name rest _ ih =>
    cases after with
    | nil => simp
    | cons c after => exact ih
  | later first _ ih => exact ih

/-- A line of the body is written with the literal of the text that stands in it. -/
theorem Class.HasText.exists_line (h : c.HasText before text after) :
    ∃ line ∈ c.body, line.toList = before ++ ((literal text).toList ++ after) := by
  cases h with
  | ofAttribute name ha htext =>
    refine ⟨_, List.mem_map_of_mem ha, ?_⟩
    simp [Constructor.render, htext.toList_renderArguments]
  | ofMember name hm =>
    refine ⟨_, List.mem_map_of_mem hm, ?_⟩
    simp

theorem Class.HasText.getLast?_before (h : c.HasText before text after) :
    before.getLast? = some '=' ∨ before.getLast? = some ' ' := by
  cases h with
  | ofAttribute name ha htext =>
    left
    rw [List.getLast?_append, List.getLast?_cons, htext.getLast?_before]
    rfl
  | ofMember name hm =>
    right
    rw [List.getLast?_append]
    rfl

theorem Class.HasText.head?_after (h : c.HasText before text after) (following : List Char) :
    (after ++ '\n' :: following).head? ≠ some '"' := by
  cases h with
  | @ofAttribute _ _ _ _ after name ha htext =>
    have hafter := htext.head?_after
    cases after with
    | nil => simp
    | cons c after => exact hafter
  | ofMember name hm => simp

end Lines

/-! ## Texts in a module -/

section Modules

variable {m : Module} {c : Class} {before after : List Char} {text : String}

/-- The lines of a class are among those of the declarations. -/
theorem exists_declarationLines (settings : Settings) {cs : List Class} (hc : c ∈ cs) :
    ∃ front back, declarationLines settings cs =
      front ++ (c.lines settings.indentWidth ++ back) := by
  cases cs with
  | nil => contradiction
  | cons first rest =>
    rcases List.mem_cons.mp hc with rfl | hc
    · exact ⟨[[], []], _, List.append_assoc _ _ _⟩
    · obtain ⟨earlier, later, rfl⟩ := List.append_of_mem hc
      let separated : Class → List (List Char) := fun c =>
        List.replicate settings.blankLines [] ++ c.lines settings.indentWidth
      refine ⟨[[], []] ++ first.lines settings.indentWidth ++
        (earlier.flatMap separated ++ List.replicate settings.blankLines []),
          later.flatMap separated, ?_⟩
      simp [declarationLines, separated]

/-- A line of the body of a class is a line of its own in a module. -/
theorem exists_render_eq (settings : Settings) (hc : c ∈ m.classes) {line : String}
    (hline : line ∈ c.body) :
    ∃ preceding following, (m.render settings).toList =
      preceding ++ '\n' ::
        (List.replicate settings.indentWidth ' ' ++ (line.toList ++ '\n' :: following)) := by
  obtain ⟨front, back, hlines⟩ := exists_declarationLines settings hc
  have hbody : List.replicate settings.indentWidth ' ' ++ line.toList ∈
      c.bodyLines settings.indentWidth := by
    have hne : c.body.isEmpty = false := List.isEmpty_eq_false_iff.mpr (List.ne_nil_of_mem hline)
    rw [Class.bodyLines, hne]
    exact List.mem_map_of_mem hline
  obtain ⟨earlier, later, hsplit⟩ := List.append_of_mem hbody
  -- The line before it ends with a line break: it is the header of the class, or
  -- another line of the body.
  obtain ⟨above, last, habove⟩ : ∃ above last, c.header :: earlier = above ++ [last] :=
    (List.eq_nil_or_concat' (c.header :: earlier)).resolve_left (List.cons_ne_nil _ _)
  have hclass : c.lines settings.indentWidth =
      above ++ [last] ++ (List.replicate settings.indentWidth ' ' ++ line.toList) :: later := by
    rw [Class.lines, hsplit, ← List.cons_append, habove]
  refine ⟨("# " ++ m.header ++ "\n\n" ++ String.join (m.imports.map Import.line)).toList ++
    (unlines (front ++ above) ++ last), unlines (later ++ back), ?_⟩
  rw [Module.render, String.toList_append, toList_renderClasses, hlines, hclass]
  simp

/-- Wherever a text stands in a module, its literal comes after an equals sign or a space. Python
reads it up to its last character and finds the text, if the text has no carriage return and no NUL.
Otherwise it finds no literal. -/
theorem readLiteral_render (settings : Settings) (hc : c ∈ m.classes)
    (h : c.HasText before text after) :
    ∃ preceding following,
      (m.render settings).toList =
        preceding ++ '\n' :: (List.replicate settings.indentWidth ' ' ++
          (before ++ ((literal text).toList ++ (after ++ '\n' :: following)))) ∧
      (before.getLast? = some '=' ∨ before.getLast? = some ' ') ∧
      ∀ characterNames,
        readLiteral characterNames ((literal text).toList ++ (after ++ '\n' :: following)) =
          if '\r' ∈ text.toList ∨ '\x00' ∈ text.toList then none
          else some (text.toList.map Char.toNat, after ++ '\n' :: following) := by
  obtain ⟨line, hline, heq⟩ := h.exists_line
  obtain ⟨preceding, following, hrender⟩ := exists_render_eq settings hc hline
  refine ⟨preceding, following, ?_, h.getLast?_before,
    fun _ => readLiteral_literal text (h.head?_after following)⟩
  rw [hrender, heq]
  simp

/-- An attribute with a quote and a backslash in its format. -/
def dayAttribute : Attribute :=
  ⟨"day", ⟨"DateField", [("fmt", .text "%d\"\\")]⟩⟩

/-- A module with such an attribute, and with a class that is a carriage return. -/
def lineEnds : Module :=
  { header := "h"
    imports := []
    classes := [.enumeration "E" [⟨"CR", "\r"⟩], .struct "S" [dayAttribute]] }

/-- The literal of the format ends with an escaped backslash before the closing quote. -/
theorem readLiteral_render_lineEnds :
    (.struct "S" [dayAttribute] ∈ lineEnds.classes ∧
        Class.HasText (.struct "S" [dayAttribute])
          "day = DateField(fmt=".toList "%d\"\\" ")".toList) ∧
      ∃ preceding following,
        (lineEnds.render ⟨true, 4, 1⟩).toList =
          preceding ++ '\n' :: (List.replicate 4 ' ' ++
            ("day = DateField(fmt=".toList ++
              ((literal "%d\"\\").toList ++ (")".toList ++ '\n' :: following)))) ∧
        ("day = DateField(fmt=".toList.getLast? = some '=' ∨
          "day = DateField(fmt=".toList.getLast? = some ' ') ∧
        ∀ characterNames,
          readLiteral characterNames
            ((literal "%d\"\\").toList ++ (")".toList ++ '\n' :: following)) =
            if '\r' ∈ "%d\"\\".toList ∨ '\x00' ∈ "%d\"\\".toList then none
            else some ("%d\"\\".toList.map Char.toNat, ")".toList ++ '\n' :: following) := by
  have hc : .struct "S" [dayAttribute] ∈ lineEnds.classes :=
    List.mem_cons_of_mem _ List.mem_cons_self
  have htext : Class.HasText (.struct "S" [dayAttribute])
      "day = DateField(fmt=".toList "%d\"\\" ")".toList :=
    Class.HasText.ofAttribute "S" (List.mem_singleton_self dayAttribute) (.here "fmt" "%d\"\\" [])
  exact ⟨⟨hc, htext⟩, readLiteral_render ⟨true, 4, 1⟩ hc htext⟩

/-- The carriage return stands in its literal as it is, and the line ends there. -/
theorem readLiteral_carriageReturn :
    lineEnds.render ⟨true, 4, 1⟩ =
        "# h\n\n\n\nclass E(Enum):\n    CR = \"\r\"\n\nclass S(Struct):\n" ++
          "    day = DateField(fmt=\"%d\\\"\\\\\")\n" ∧
      Class.HasText (.enumeration "E" [⟨"CR", "\r"⟩]) "CR = ".toList "\r" [] ∧
      literal "\r" = "\"\r\"" ∧
      ∀ characterNames rest, readLiteral characterNames ((literal "\r").toList ++ rest) = none := by
  have hliteral : literal "\r" = "\"\r\"" := by decide +kernel
  refine ⟨by decide +kernel, .ofMember "E" List.mem_cons_self, hliteral,
    fun characterNames rest => ?_⟩
  rw [hliteral]
  show readLiteral characterNames ('"' :: '\r' :: '"' :: rest) = none
  rw [readLiteral_quote (by simp)]
  exact readQuoted_lineEnd (.inr (.inl rfl))

end Modules

end DatasetSchema.Declaration
