import DatasetSchema.Declaration.Layout
import DatasetSchema.Declaration.OfSchema
import DatasetSchema.Proofs.TypeExpr.RoundTrip

/-!
# Constructors in a text

The constructor for a field type is written without a separator after it, so where it ends must be
found in what is written. It is: whatever follows, only one type is written with it. For a text
literal this is so since quotes inside it are escaped, for a name since no parenthesis belongs to a
name, and for the arguments of a call since the callee tells what they are.

## Main results

* `Declaration.literal_append_inj`: a text literal ends in one place and stands for one text;
* `FieldType.render_constructor_append_inj`: the constructor for a type ends in one place
  and stands for one type;
* `FieldType.newline_notMem_render_constructor`: it is written in one line.
-/

namespace DatasetSchema

/-- A list is split in only one way at the first of its items that do not have a property. -/
theorem append_cons_inj {α : Type} {p : α → Prop} {a b r s : List α} {c d : α} (ha : ∀ x ∈ a, p x)
    (hb : ∀ x ∈ b, p x) (hc : ¬ p c) (hd : ¬ p d) (h : a ++ c :: r = b ++ d :: s) :
    a = b ∧ c = d ∧ r = s := by
  induction a generalizing b with
  | nil =>
    cases b with
    | nil => exact ⟨rfl, List.cons.inj h⟩
    | cons y b =>
      obtain ⟨rfl, -⟩ := List.cons.inj h
      exact absurd (hb c List.mem_cons_self) hc
  | cons x a ih =>
    cases b with
    | nil =>
      obtain ⟨rfl, -⟩ := List.cons.inj h
      exact absurd (ha x List.mem_cons_self) hd
    | cons y b =>
      obtain ⟨rfl, hrest⟩ := List.cons.inj h
      obtain ⟨rfl, hsplit⟩ := ih (List.forall_mem_cons.mp ha).2 (List.forall_mem_cons.mp hb).2 hrest
      exact ⟨rfl, hsplit⟩

/-- A list is split in only one way at the first of some item. -/
theorem append_cons_inj_of_notMem {α : Type} {a b r s : List α} {c : α} (ha : c ∉ a) (hb : c ∉ b)
    (h : a ++ c :: r = b ++ c :: s) : a = b ∧ r = s := by
  have hne : ∀ {l : List α}, c ∉ l → ∀ x ∈ l, x ≠ c := fun hl x hx heq => hl (heq ▸ hx)
  obtain ⟨hab, -, hrs⟩ := append_cons_inj (hne ha) (hne hb) (by simp) (by simp) h
  exact ⟨hab, hrs⟩

/-- Punctuation is in no name. -/
theorem IsName.notMem {name : List Char} {c : Char} (h : IsName name) (hc : isNameChar c = false) :
    c ∉ name := fun hmem => Bool.false_ne_true (hc.symm.trans (h.2 c hmem))

namespace Declaration

/-! ## Text literals -/

variable {a b : String} {c d : Char} {r s : List Char}

/-- Backslashes, quotes and line breaks are escaped, and no other character is. -/
theorem literalChar_cases (c : Char) :
    c = '\\' ∧ literalChar c = ['\\', '\\'] ∨ c = '"' ∧ literalChar c = ['\\', '"'] ∨
      c = '\n' ∧ literalChar c = ['\\', 'n'] ∨
        (c ≠ '\\' ∧ c ≠ '"' ∧ c ≠ '\n') ∧ literalChar c = [c] := by
  by_cases hbackslash : c = '\\'
  · subst hbackslash
    exact .inl ⟨rfl, rfl⟩
  by_cases hquote : c = '"'
  · subst hquote
    exact .inr (.inl ⟨rfl, rfl⟩)
  by_cases hnewline : c = '\n'
  · subst hnewline
    exact .inr (.inr (.inl ⟨rfl, rfl⟩))
  refine .inr (.inr (.inr ⟨⟨hbackslash, hquote, hnewline⟩, ?_⟩))
  simp [literalChar, hbackslash, hquote, hnewline]

/-- A written character is not the quote at the end of a literal. -/
theorem literalChar_append_ne : literalChar c ++ r ≠ '"' :: s := by
  rcases literalChar_cases c with ⟨rfl, hc⟩ | ⟨rfl, hc⟩ | ⟨rfl, hc⟩ | ⟨⟨-, hquote, -⟩, hc⟩ <;>
    simp [*]

theorem literalChar_append_inj (h : literalChar c ++ r = literalChar d ++ s) : c = d ∧ r = s := by
  rcases literalChar_cases c with ⟨rfl, hc⟩ | ⟨rfl, hc⟩ | ⟨rfl, hc⟩ | ⟨hplain, hc⟩ <;>
    rcases literalChar_cases d with ⟨rfl, hd⟩ | ⟨rfl, hd⟩ | ⟨rfl, hd⟩ | ⟨hplain', hd⟩ <;>
      simp only [hc, hd, List.cons_append, List.nil_append, List.cons.injEq] at h <;> grind

theorem toList_literal (value : String) :
    (literal value).toList = '"' :: (value.toList.flatMap literalChar ++ ['"']) := by
  simp [literal]

/-- The first quote that is not escaped ends what is written between quotes. -/
theorem flatMap_literalChar_append_inj {v w : List Char}
    (h : v.flatMap literalChar ++ '"' :: r = w.flatMap literalChar ++ '"' :: s) :
    v = w ∧ r = s := by
  induction v generalizing w with
  | nil =>
    cases w with
    | nil => exact ⟨rfl, (List.cons.inj h).2⟩
    | cons d w =>
      rw [List.flatMap_cons, List.append_assoc] at h
      exact absurd h.symm literalChar_append_ne
  | cons c v ih =>
    rw [List.flatMap_cons, List.append_assoc] at h
    cases w with
    | nil => exact absurd h literalChar_append_ne
    | cons d w =>
      rw [List.flatMap_cons, List.append_assoc] at h
      obtain ⟨rfl, hrest⟩ := literalChar_append_inj h
      obtain ⟨rfl, hrs⟩ := ih hrest
      exact ⟨rfl, hrs⟩

/-- A text literal ends in one place and stands for one text. -/
theorem literal_append_inj (h : (literal a).toList ++ r = (literal b).toList ++ s) :
    a = b ∧ r = s := by
  simp only [toList_literal, List.cons_append, List.append_assoc, List.nil_append, List.cons.injEq,
    true_and] at h
  obtain ⟨hab, hrs⟩ := flatMap_literalChar_append_inj h
  exact ⟨String.toList_inj.mp hab, hrs⟩

/-- A text literal is written in one line. -/
theorem newline_notMem_literal (value : String) : '\n' ∉ (literal value).toList := by
  have hchar : ∀ c, '\n' ∉ literalChar c := by
    intro c
    rcases literalChar_cases c with ⟨-, hc⟩ | ⟨-, hc⟩ | ⟨-, hc⟩ | ⟨⟨-, -, hnewline⟩, hc⟩ <;>
      simp only [hc, List.mem_cons, List.not_mem_nil] <;> simp [Ne.symm, *]
  rw [toList_literal]
  simp [hchar]

/-! ## Calls -/

theorem toList_render (constructor : Constructor) :
    constructor.render.toList =
      constructor.callee.toList ++
        '(' :: ((renderArguments constructor.arguments).toList ++ [')']) := by
  simp [Constructor.render]

/-- How the flag of a list type is written after the element type. -/
def orderedArgument : Option Bool → String
  | none => ""
  | some true => ", ordered=True"
  | some false => ", ordered=False"

end Declaration

namespace FieldType

open Declaration

variable {type type' : FieldType} {r s : List Char}

section

-- What is written is computed form by form.
attribute [local simp] constructor kind FieldKind.name renderArguments Argument.render
  orderedArgument

theorem toList_callee (type : FieldType) :
    type.constructor.callee.toList = type.kind.name.toList ++ "Field".toList := by
  cases type with
  | list element ordered => cases ordered <;> simp
  | plain | label | date | time => simp

theorem toList_arguments_label (domain : String) :
    (renderArguments (label domain).constructor.arguments).toList =
      "dom=".toList ++ domain.toList := by
  simp

theorem toList_arguments_date (format : String) :
    (renderArguments (date format).constructor.arguments).toList =
      "fmt=".toList ++ (literal format).toList := by
  simp

theorem toList_arguments_time (format : String) :
    (renderArguments (time format).constructor.arguments).toList =
      "fmt=".toList ++ (literal format).toList := by
  simp

theorem toList_arguments_list (element : FieldType) (ordered : Option Bool) :
    (renderArguments (list element ordered).constructor.arguments).toList =
      "ele_type=".toList ++ (element.constructor.render.toList ++
        (orderedArgument ordered).toList) := by
  cases ordered with
  | none => simp [Constructor.render]
  | some flag => cases flag <;> simp [Constructor.render]

end

/-- The callee tells the kind of the type. -/
theorem kind_eq_of_append
    (h : type.constructor.render.toList ++ r = type'.constructor.render.toList ++ s) :
    type.kind = type'.kind ∧
      (renderArguments type.constructor.arguments).toList ++ ')' :: r =
        (renderArguments type'.constructor.arguments).toList ++ ')' :: s := by
  have hcallee : ∀ type : FieldType, '(' ∉ type.constructor.callee.toList := by
    intro type
    rw [toList_callee, List.mem_append, not_or]
    exact ⟨(TypeExpr.isName_kind type.kind).notMem (isNameChar_punctuation (by decide)), by decide⟩
  simp only [toList_render, List.append_assoc, List.cons_append, List.nil_append] at h
  obtain ⟨hname, hrest⟩ := append_cons_inj_of_notMem (hcallee type) (hcallee type') h
  refine ⟨?_, hrest⟩
  rw [toList_callee, toList_callee, List.append_cancel_right_eq, String.toList_inj] at hname
  have hkind : ∀ kind : FieldKind, FieldKind.ofName? kind.name = some kind := by
    exact fun kind => TypeExpr.ofName?_eq_some_iff.mpr rfl
  exact Option.some.inj ((hkind _).symm.trans ((congrArg FieldKind.ofName? hname).trans (hkind _)))

theorem orderedArgument_append_inj {ordered ordered' : Option Bool}
    (h : (orderedArgument ordered).toList ++ ')' :: r =
      (orderedArgument ordered').toList ++ ')' :: s) :
    ordered = ordered' ∧ r = s := by
  rcases ordered with _ | _ | _ <;> rcases ordered' with _ | _ | _ <;>
    simp_all [orderedArgument]

/-- The constructor for a type ends in one place, whatever follows it, and stands for one type. -/
theorem render_constructor_append_inj (htype : type.IsWritable) (htype' : type'.IsWritable)
    (h : type.constructor.render.toList ++ r = type'.constructor.render.toList ++ s) :
    type = type' ∧ r = s := by
  induction type generalizing type' r s with
  | plain kind =>
    obtain ⟨hkind, harguments⟩ := kind_eq_of_append h
    -- Types of one kind have one form, and so have their arguments.
    cases type' with
    | plain kind' =>
      obtain rfl : kind = kind' := hkind
      exact ⟨rfl, by simpa [constructor, renderArguments] using harguments⟩
    | label | date | time | list => cases (congrArg FieldKind.arity hkind).symm.trans htype
  | label domain =>
    obtain ⟨hkind, harguments⟩ := kind_eq_of_append h
    cases type' with
    | label domain' =>
      simp only [toList_arguments_label, List.append_assoc,
        List.append_cancel_left_eq] at harguments
      have hparenthesis : isNameChar ')' = false := isNameChar_punctuation (by decide)
      obtain ⟨hdomain, hrest⟩ := append_cons_inj_of_notMem
        ((isName_of_isIdentifier htype).notMem hparenthesis)
        ((isName_of_isIdentifier htype').notMem hparenthesis) harguments
      exact ⟨congrArg label (String.toList_inj.mp hdomain), hrest⟩
    | plain => cases (congrArg FieldKind.arity hkind).trans htype'
    | date | time | list => cases hkind
  | date format =>
    obtain ⟨hkind, harguments⟩ := kind_eq_of_append h
    cases type' with
    | date format' =>
      simp only [toList_arguments_date, List.append_assoc, List.append_cancel_left_eq] at harguments
      obtain ⟨rfl, hrest⟩ := literal_append_inj harguments
      exact ⟨rfl, (List.cons.inj hrest).2⟩
    | plain => cases (congrArg FieldKind.arity hkind).trans htype'
    | label | time | list => cases hkind
  | time format =>
    obtain ⟨hkind, harguments⟩ := kind_eq_of_append h
    cases type' with
    | time format' =>
      simp only [toList_arguments_time, List.append_assoc, List.append_cancel_left_eq] at harguments
      obtain ⟨rfl, hrest⟩ := literal_append_inj harguments
      exact ⟨rfl, (List.cons.inj hrest).2⟩
    | plain => cases (congrArg FieldKind.arity hkind).trans htype'
    | label | date | list => cases hkind
  | list element ordered ih =>
    obtain ⟨hkind, harguments⟩ := kind_eq_of_append h
    cases type' with
    | list element' ordered' =>
      have helement' : element'.IsWritable := htype'
      simp only [toList_arguments_list, List.append_assoc, List.append_cancel_left_eq] at harguments
      obtain ⟨rfl, hflag⟩ := ih htype helement' harguments
      obtain ⟨rfl, hrest⟩ := orderedArgument_append_inj hflag
      exact ⟨rfl, hrest⟩
    | plain => cases (congrArg FieldKind.arity hkind).trans htype'
    | label | date | time => cases hkind

theorem newline_notMem_of_arguments
    (h : '\n' ∉ (renderArguments type.constructor.arguments).toList) :
    '\n' ∉ type.constructor.render.toList := by
  have hkind : '\n' ∉ type.kind.name.toList :=
    (TypeExpr.isName_kind type.kind).notMem (isNameChar_punctuation (by decide))
  rw [toList_render, toList_callee]
  simp [h, hkind]

/-- The constructor for a type is written in one line. -/
theorem newline_notMem_render_constructor (htype : type.IsWritable) :
    '\n' ∉ type.constructor.render.toList := by
  -- The texts in a type are its domain, which is a name, and its format, which is written as a
  -- literal.
  induction type with
  | plain kind =>
    refine newline_notMem_of_arguments ?_
    simp [constructor, renderArguments]
  | label domain =>
    have hdomain : '\n' ∉ domain.toList :=
      (isName_of_isIdentifier htype).notMem (isNameChar_punctuation (by decide))
    refine newline_notMem_of_arguments ?_
    rw [toList_arguments_label]
    simp [hdomain]
  | date format =>
    refine newline_notMem_of_arguments ?_
    rw [toList_arguments_date]
    simp [newline_notMem_literal format]
  | time format =>
    refine newline_notMem_of_arguments ?_
    rw [toList_arguments_time]
    simp [newline_notMem_literal format]
  | list element ordered ih =>
    have hflag : '\n' ∉ (orderedArgument ordered).toList := by
      rcases ordered with _ | _ | _ <;> decide
    refine newline_notMem_of_arguments ?_
    rw [toList_arguments_list]
    simp [ih htype, hflag]

end FieldType

end DatasetSchema
