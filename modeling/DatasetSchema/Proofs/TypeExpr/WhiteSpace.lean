import DatasetSchema.Proofs.TypeExpr.RoundTrip
import DatasetSchema.Text.WhiteSpace

/-!
# White space in type expressions

White space is taken out of an expression before it is read. Names and punctuation have none, so a
type that is written keeps its meaning unless it has a format with white space, and such a format is
read from no expression.

## Main definitions

* `FieldType.IsSolid`: the types without white space in a format.

## Main results

* `FieldType.isSolid_of_ofText`: a type that is read from a text without white space has none in a
  format;
* `FieldType.ofText_stripWhiteSpace_render_iff`: a type is read back from what is written, white
  space taken out, exactly if it can be read from some text and has no white space in a format.
-/

namespace DatasetSchema

/-! ## Texts without white space -/

namespace Text

/-- No character of the text is white space. -/
def IsSolid (s : List Char) : Prop :=
  ∀ c ∈ s, isWhiteSpace c = false

variable {s t : List Char} {c : Char}

@[simp]
theorem isSolid_nil : IsSolid [] := nofun

@[simp]
theorem isSolid_cons : IsSolid (c :: s) ↔ isWhiteSpace c = false ∧ IsSolid s :=
  List.forall_mem_cons

@[simp]
theorem isSolid_append : IsSolid (s ++ t) ↔ IsSolid s ∧ IsSolid t :=
  List.forall_mem_append

/-- Taking out white space changes exactly the texts that have some. -/
theorem stripWhiteSpace_eq_self_iff {text : String} :
    stripWhiteSpace text = text ↔ IsSolid text.toList := by
  rw [stripWhiteSpace, ← String.toList_inj, String.toList_ofList, List.filter_eq_self]
  simp only [IsSolid, Bool.not_eq_true']

/-- Nothing is left to take out. -/
theorem isSolid_stripWhiteSpace (text : String) : IsSolid (stripWhiteSpace text).toList := by
  intro c hc
  rw [stripWhiteSpace, String.toList_ofList] at hc
  simpa using (List.mem_filter.mp hc).2

/-- There are few white spaces, and each is looked up in the tables of letters and numbers. -/
theorem isNameChar_of_mem_whiteSpaceRanges :
    ∀ range ∈ whiteSpaceRanges, ∀ n ∈ List.range' range.1 (range.2 + 1 - range.1),
      isNameChar (Char.ofNat n) = false := by
  decide +kernel

/-- No white space is a letter, a number or `_`. -/
theorem isWhiteSpace_of_isNameChar (h : isNameChar c) : isWhiteSpace c = false := by
  rw [isWhiteSpace, inRanges, List.any_eq_false]
  intro range hrange hin
  rw [Bool.and_eq_true, decide_eq_true_eq, decide_eq_true_eq] at hin
  have hmem : c.toNat ∈ List.range' range.1 (range.2 + 1 - range.1) := by
    rw [List.mem_range'_1]
    omega
  have hname := isNameChar_of_mem_whiteSpaceRanges range hrange c.toNat hmem
  rw [Char.ofNat_toNat] at hname
  exact Bool.false_ne_true (hname.symm.trans h)

theorem isSolid_of_isName (h : IsName s) : IsSolid s :=
  fun c hc => isWhiteSpace_of_isNameChar (h.2 c hc)

end Text

open Text

/-- No format in the type has white space. -/
def FieldType.IsSolid : FieldType → Prop
  | .plain _ | .label _ => True
  | .date format | .time format => Text.IsSolid format.toList
  | .list element _ => element.IsSolid

namespace TypeExpr

variable {type : FieldType} {kind : FieldKind} {key : String}
  {source value argument inner : List Char}

/-! ## Reading a text without white space -/

theorem isSolid_bracketed : IsSolid (bracketed kind inner) ↔ IsSolid inner := by
  have hopen : isWhiteSpace '[' = false := by decide
  have hclose : isWhiteSpace ']' = false := by decide
  simp [bracketed, isSolid_of_isName (isName_kind kind), hopen, hclose]

theorem isSolid_key_append (hkey : IsName key.toList) :
    IsSolid (key.toList ++ '=' :: value) ↔ IsSolid value := by
  have hequals : isWhiteSpace '=' = false := by decide
  simp [isSolid_of_isName hkey, hequals]

theorem IsArgument.isSolid_iff (h : IsArgument key value argument) (hkey : IsName key.toList) :
    IsSolid argument ↔ IsSolid value := by
  rcases h with rfl | rfl
  · rfl
  · exact isSolid_key_append hkey

/-- A format is a part of its argument. -/
theorem IsFormatArgument.isSolid {format : String} (h : IsFormatArgument argument format)
    (hargument : IsSolid argument) : IsSolid format.toList := by
  obtain ⟨value, -, -, hform, hunquoted, -⟩ := h
  have hvalue : IsSolid value := by
    rcases hform with ⟨rfl, -⟩ | rfl
    · exact hargument
    · exact (isSolid_key_append (by decide)).mp hargument
  rcases hunquoted with ⟨quote, -, rfl⟩ | ⟨-, rfl⟩
  · rw [isSolid_cons, isSolid_append] at hvalue
    exact hvalue.2.1
  · exact hvalue

/-- Every format of a type is a part of a text that denotes the type. -/
theorem Denotes.isSolid (h : Denotes source type) (hsource : IsSolid source) : type.IsSolid := by
  induction h with
  | plain | label => trivial
  | date hargument => exact hargument.isSolid (isSolid_bracketed.mp hsource)
  | time hargument => exact hargument.isSolid (isSolid_bracketed.mp hsource)
  | list _ hargument ih =>
    exact ih ((hargument.isSolid_iff (by decide)).mp (isSolid_bracketed.mp hsource))
  | flaggedList _ hargument _ _ ih =>
    rw [isSolid_bracketed, isSolid_append] at hsource
    exact ih ((hargument.isSolid_iff (by decide)).mp hsource.1)

/-! ## Writing a type without white space -/

theorem isSolid_quoteFormat {format : String}
    (hquotes : ¬ ('"' ∈ format.toList ∧ '\'' ∈ format.toList)) (h : IsSolid format.toList) :
    IsSolid (FieldType.quoteFormat format).toList := by
  obtain ⟨quote, hquote, -, hvalue⟩ := quoteFormat_eq hquotes
  have hspace : isWhiteSpace quote = false := by
    rcases hquote with rfl | rfl <;> decide
  rw [hvalue, isSolid_cons, isSolid_append, isSolid_cons]
  exact ⟨hspace, h, hspace, isSolid_nil⟩

/-- What is written for a type has no more white space than its formats. -/
theorem isSolid_render (hwritable : type.IsWritable) (h : type.IsSolid) :
    IsSolid type.render.toList := by
  induction type with
  | plain kind => exact isSolid_of_isName (isName_kind kind)
  | label dom =>
    rw [toList_render_label, isSolid_bracketed, isSolid_key_append (by decide)]
    exact isSolid_of_isName (isName_of_isIdentifier hwritable)
  | date format =>
    rw [toList_render_date, isSolid_bracketed, isSolid_key_append (by decide)]
    exact isSolid_quoteFormat hwritable h
  | time format =>
    rw [toList_render_time, isSolid_bracketed, isSolid_key_append (by decide)]
    exact isSolid_quoteFormat hwritable h
  | list element ordered ih =>
    have helement := ih hwritable h
    cases ordered with
    | none =>
      rw [toList_render_list, isSolid_bracketed, isSolid_key_append (by decide)]
      exact helement
    | some flag =>
      have hcomma : isWhiteSpace ',' = false := by decide
      rw [toList_render_flaggedList, isSolid_bracketed, isSolid_append, isSolid_cons,
        isSolid_key_append (by decide), isSolid_key_append (by decide)]
      exact ⟨helement, hcomma, isSolid_of_isName (isName_of_map_toLower map_toLower_toString)⟩

end TypeExpr

namespace FieldType

open TypeExpr

variable {type : FieldType}

/-- A type that is read from a text without white space has none in a format. -/
theorem isSolid_of_ofText {source : String} (h : ofText source = .ok type)
    (hsource : Text.IsSolid source.toList) : type.IsSolid := by
  rw [ofText_eq_ok_iff_denotedBy, denotedBy_eq_ok_iff] at h
  exact h.2.isSolid hsource

/-- A type is read back from what is written, white space taken out, exactly if some text is read as
that type and no format of the type has white space. -/
theorem ofText_stripWhiteSpace_render_iff :
    ofText (stripWhiteSpace type.render) = .ok type ↔
      (∃ source, ofText source = .ok type) ∧ type.IsSolid := by
  constructor
  · intro h
    exact ⟨⟨_, h⟩, isSolid_of_ofText h (isSolid_stripWhiteSpace _)⟩
  · rintro ⟨⟨source, h⟩, hsolid⟩
    rw [ofText_eq_ok_iff_denotedBy, denotedBy_eq_ok_iff] at h
    obtain ⟨hmax, hdenotes⟩ := h
    have hwritable := hdenotes.isWritable
    rw [stripWhiteSpace_eq_self_iff.mpr (isSolid_render hwritable hsolid)]
    rw [ofText_eq_ok_iff_denotedBy, denotedBy_eq_ok_iff]
    refine ⟨?_, denotes_render hwritable⟩
    rw [nestingDepth_render hwritable]
    exact hdenotes.brackets_le.trans hmax

end FieldType

end DatasetSchema
