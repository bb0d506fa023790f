import DatasetSchema.Proofs.TypeExpr.Grammar
import Mathlib.Tactic.TFAE

/-!
# Writing field types and reading them back

The types that some text denotes are those that can be written: a domain has to be an
identifier, a format must leave one kind of quote to put around it, and the lists must not nest
too deeply. The expression that a type is written as denotes that type, and no text that
denotes it nests less deeply.

## Main definitions

* `FieldType.WellFormed`: the types that can be written.

## Main results

* `FieldType.ofText_render_tfae`: a type is read back from what is written exactly if it is
  well-formed, and exactly if it is read from any text at all.
-/

namespace DatasetSchema.FieldType

open TypeExpr

/-- Everything that a type holds besides lists can be written. -/
def IsWritable : FieldType → Prop
  | .plain kind => kind.arity = .parameterless
  | .label domain => isIdentifier domain
  | .date format => ¬ ('"' ∈ format.toList ∧ '\'' ∈ format.toList)
  | .time format => ¬ ('"' ∈ format.toList ∧ '\'' ∈ format.toList)
  | .list element _ => element.IsWritable

/-- The number of brackets around the innermost parameter: one for each list, and one for an
innermost label, date or time. -/
def brackets : FieldType → Nat
  | .plain _ => 0
  | .label _ => 1
  | .date _ => 1
  | .time _ => 1
  | .list element _ => element.brackets + 1

/-- A type that can be written without nesting too deeply. -/
structure WellFormed (type : FieldType) : Prop where
  /-- The type can be written. -/
  isWritable : type.IsWritable
  /-- It does not nest too deeply. -/
  brackets_le : type.brackets ≤ maxNesting

end DatasetSchema.FieldType

namespace DatasetSchema.TypeExpr

variable {type : FieldType} {kind : FieldKind} {key : String}
  {source value argument inner : List Char}

/-! ## What denotes a type nests at least as deeply as the type -/

theorem nestingDepth_bracketed (h : Balanced true inner) :
    nestingDepth (bracketed kind inner) = 1 + nestingDepth inner := by
  rw [bracketed, nestingDepth_name_append (isName_kind kind).2, h.nestingDepth_group]

/-- Two parameters nest as deep as the one that nests deeper. -/
theorem nestingDepth_bracketed_pair {second : List Char} (h : Balanced false argument)
    (hsecond : Balanced false second) :
    nestingDepth (bracketed kind (argument ++ ',' :: second)) =
      1 + max (nestingDepth argument) (nestingDepth second) := by
  -- A comma is balanced inside the brackets only.
  have hinner := h.inGroup.append
    (hsecond.inGroup.other (c := ',') (by decide) (by decide) (by decide) fun _ => rfl)
  rw [nestingDepth_bracketed hinner, h.nestingDepth_append,
    nestingDepth_cons (by decide) (by decide) (by decide)]

theorem Denotes.balanced (h : Denotes source type) : Balanced false source := by
  obtain ⟨shape, -, hshape, rfl, -⟩ := h.hasMeaning
  exact hshape.balanced_text

theorem balanced_key_append (hkey : IsName key.toList) (h : Balanced false value) :
    Balanced false (key.toList ++ '=' :: value) :=
  (balanced_of_isName hkey).append (h.other (by decide) (by decide) (by decide) (by decide))

theorem IsArgument.balanced (h : IsArgument key value argument) (hkey : IsName key.toList)
    (hvalue : Balanced false value) : Balanced false argument := by
  rcases h with rfl | rfl
  · exact hvalue
  · exact balanced_key_append hkey hvalue

theorem IsArgument.nestingDepth_eq (h : IsArgument key value argument) (hkey : IsName key.toList) :
    nestingDepth argument = nestingDepth value := by
  rcases h with rfl | rfl
  · rfl
  · exact nestingDepth_key_append hkey

theorem IsFormatArgument.balanced {s : String} (h : IsFormatArgument argument s) :
    Balanced false argument := by
  obtain ⟨value, -, hvalue, ⟨rfl, -⟩ | rfl, -⟩ := h
  · exact hvalue
  · exact balanced_key_append (by decide) hvalue

/-- A type that a text denotes can be written. -/
theorem Denotes.isWritable (h : Denotes source type) : type.IsWritable := by
  induction h with
  | plain hkind => exact hkind
  | label hdom _ => exact hdom
  | date hargument =>
    obtain ⟨_, _, _, _, _, hquotes⟩ := hargument
    exact hquotes
  | time hargument =>
    obtain ⟨_, _, _, _, _, hquotes⟩ := hargument
    exact hquotes
  | list _ _ ih => exact ih
  | flaggedList _ _ _ _ ih => exact ih

/-- Every list and every innermost parameter of a type takes a pair of brackets in a text
that denotes the type. -/
theorem Denotes.brackets_le (h : Denotes source type) : type.brackets ≤ nestingDepth source := by
  -- Each constructor with an argument puts one pair of brackets around it.
  induction h with
  | plain => exact Nat.zero_le _
  | label hdom hargument =>
    have hbalanced :=
      hargument.balanced (by decide) (balanced_of_isName (isName_of_isIdentifier hdom))
    rw [nestingDepth_bracketed hbalanced.inGroup]
    exact Nat.le_add_right 1 _
  | date hargument =>
    rw [nestingDepth_bracketed hargument.balanced.inGroup]
    exact Nat.le_add_right 1 _
  | time hargument =>
    rw [nestingDepth_bracketed hargument.balanced.inGroup]
    exact Nat.le_add_right 1 _
  | list helement hargument ih =>
    have hbalanced := hargument.balanced (by decide) helement.balanced
    rw [nestingDepth_bracketed hbalanced.inGroup, hargument.nestingDepth_eq (by decide),
      FieldType.brackets]
    omega
  | flaggedList helement hargument hflag hflagArgument ih =>
    have hbalanced := hargument.balanced (by decide) helement.balanced
    have hflagBalanced := hflagArgument.balanced (by decide)
      (balanced_of_isName (isName_of_map_toLower hflag))
    rw [nestingDepth_bracketed_pair hbalanced hflagBalanced, hargument.nestingDepth_eq (by decide),
      FieldType.brackets]
    omega

/-! ## What a type is written as -/

/-- A format between the quotes that it is written with. -/
theorem quoteFormat_eq {format : String} (h : ¬ ('"' ∈ format.toList ∧ '\'' ∈ format.toList)) :
    ∃ quote, IsQuote quote ∧ quote ∉ format.toList ∧
      (FieldType.quoteFormat format).toList = quote :: (format.toList ++ [quote]) := by
  rw [FieldType.quoteFormat]
  split
  -- Single quotes are taken only if the format has double ones, and it has not both.
  · next hdouble =>
    rw [List.contains_iff_mem] at hdouble
    exact ⟨'\'', .inr rfl, fun hsingle => h ⟨hdouble, hsingle⟩, by simp⟩
  · next hdouble =>
    rw [List.contains_iff_mem] at hdouble
    exact ⟨'"', .inl rfl, hdouble, by simp⟩

/-- The format that is written is the format that is read. -/
theorem isFormatArgument_quoteFormat {format : String}
    (h : ¬ ('"' ∈ format.toList ∧ '\'' ∈ format.toList)) :
    IsFormatArgument ("fmt".toList ++ '=' :: (FieldType.quoteFormat format).toList) format := by
  obtain ⟨quote, hquote, hrun, hvalue⟩ := quoteFormat_eq h
  refine ⟨_, ?_, ?_, .inr rfl, .inl ⟨quote, hquote, hvalue⟩, h⟩
  · rw [hvalue]
    exact List.cons_ne_nil _ _
  -- Between the quotes stands anything but that quote: brackets and commas need not match.
  · rw [hvalue]
    exact Balanced.nil.quoted hquote hrun

section

-- What is written is computed form by form.
attribute [local simp] FieldType.render FieldType.renderOrdered bracketed FieldKind.name

theorem toList_render_label {dom : String} :
    (FieldType.label dom).render.toList = bracketed .label ("dom".toList ++ '=' :: dom.toList) := by
  simp

theorem toList_render_date {format : String} :
    (FieldType.date format).render.toList =
      bracketed .date ("fmt".toList ++ '=' :: (FieldType.quoteFormat format).toList) := by
  simp

theorem toList_render_time {format : String} :
    (FieldType.time format).render.toList =
      bracketed .time ("fmt".toList ++ '=' :: (FieldType.quoteFormat format).toList) := by
  simp

theorem toList_render_list {element : FieldType} :
    (FieldType.list element none).render.toList =
      bracketed .list ("etype".toList ++ '=' :: element.render.toList) := by
  simp

theorem toList_render_flaggedList {element : FieldType} {flag : Bool} :
    (FieldType.list element (some flag)).render.toList =
      bracketed .list (("etype".toList ++ '=' :: element.render.toList) ++
        ',' :: ("ordered".toList ++ '=' :: (toString flag).toList)) := by
  have hfalse : toString false = "false" := rfl
  have htrue : toString true = "true" := rfl
  cases flag with
  | false => simp [hfalse]
  | true => simp [htrue]

end

theorem map_toLower_toString {flag : Bool} :
    (toString flag).toList.map Char.toLower = (toString flag).toList := by
  cases flag <;> decide

/-- A type that can be written is denoted by what is written. -/
theorem denotes_render (h : type.IsWritable) : Denotes type.render.toList type := by
  induction type with
  | plain kind => exact .plain h
  | label dom =>
    rw [toList_render_label]
    exact .label h (.inr rfl)
  | date format =>
    rw [toList_render_date]
    exact .date (isFormatArgument_quoteFormat h)
  | time format =>
    rw [toList_render_time]
    exact .time (isFormatArgument_quoteFormat h)
  | list element ordered ih =>
    cases ordered with
    | none =>
      rw [toList_render_list]
      exact .list (ih h) (.inr rfl)
    | some flag =>
      rw [toList_render_flaggedList]
      exact .flaggedList (ih h) (.inr rfl) map_toLower_toString (.inr rfl)

/-- Brackets in a format do not count: the format is quoted. -/
theorem nestingDepth_quoteFormat {format : String}
    (h : ¬ ('"' ∈ format.toList ∧ '\'' ∈ format.toList)) :
    nestingDepth (bracketed kind ("fmt".toList ++ '=' :: (FieldType.quoteFormat format).toList)) =
      1 := by
  obtain ⟨quote, hquote, hrun, hvalue⟩ := quoteFormat_eq h
  rw [nestingDepth_bracketed (isFormatArgument_quoteFormat h).balanced.inGroup,
    nestingDepth_key_append (by decide), hvalue, nestingDepth_quoted hquote hrun]
  rfl

theorem nestingDepth_of_isName (h : IsName value) : nestingDepth value = 0 := by
  rw [← List.append_nil value, nestingDepth_name_append h.2]
  rfl

/-- What is written nests only as deeply as the type. -/
theorem nestingDepth_render (h : type.IsWritable) :
    nestingDepth type.render.toList = type.brackets := by
  induction type with
  | plain kind => exact nestingDepth_of_isName (isName_kind kind)
  | label dom =>
    have hdom := isName_of_isIdentifier h
    rw [toList_render_label,
      nestingDepth_bracketed (balanced_key_append (by decide) (balanced_of_isName hdom)).inGroup,
      nestingDepth_key_append (by decide), nestingDepth_of_isName hdom]
    rfl
  | date format =>
    rw [toList_render_date, nestingDepth_quoteFormat h]
    rfl
  | time format =>
    rw [toList_render_time, nestingDepth_quoteFormat h]
    rfl
  | list element ordered ih =>
    -- The element is balanced since it denotes a type, so its depth adds up with that of the flag.
    have hdenotes : Denotes element.render.toList element := denotes_render h
    have helement : Balanced false ("etype".toList ++ '=' :: element.render.toList) :=
      balanced_key_append (by decide) hdenotes.balanced
    cases ordered with
    | none =>
      rw [toList_render_list, nestingDepth_bracketed helement.inGroup,
        nestingDepth_key_append (by decide), ih h, FieldType.brackets, Nat.add_comm]
    | some flag =>
      have hflag : IsName (toString flag).toList := isName_of_map_toLower map_toLower_toString
      have hflagBalanced : Balanced false ("ordered".toList ++ '=' :: (toString flag).toList) :=
        balanced_key_append (by decide) (balanced_of_isName hflag)
      rw [toList_render_flaggedList, nestingDepth_bracketed_pair helement hflagBalanced,
        nestingDepth_key_append (by decide), ih h, nestingDepth_key_append (by decide),
        nestingDepth_of_isName hflag, FieldType.brackets]
      omega

end DatasetSchema.TypeExpr

namespace DatasetSchema.FieldType

open TypeExpr

/-- A type is read back from what is written exactly if some text is read as that type, and exactly
if it is well-formed. So what is written for a type that was read is read as the same type again. -/
theorem ofText_render_tfae (type : FieldType) :
    [ofText type.render = .ok type, ∃ source, ofText source = .ok type, type.WellFormed].TFAE := by
  tfae_have 1 → 2 := fun h => ⟨type.render, h⟩
  tfae_have 2 → 3 := by
    rintro ⟨source, h⟩
    rw [ofText_eq_ok_iff_denotedBy, denotedBy_eq_ok_iff] at h
    obtain ⟨hmax, hdenotes⟩ := h
    -- The text may nest deeper than the type needs, never less deeply.
    exact ⟨hdenotes.isWritable, hdenotes.brackets_le.trans hmax⟩
  tfae_have 3 → 1 := by
    intro h
    rw [ofText_eq_ok_iff_denotedBy, denotedBy_eq_ok_iff]
    refine ⟨?_, denotes_render h.isWritable⟩
    rw [nestingDepth_render h.isWritable]
    exact h.brackets_le
  tfae_finish

end DatasetSchema.FieldType
