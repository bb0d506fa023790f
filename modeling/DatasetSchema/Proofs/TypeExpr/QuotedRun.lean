import DatasetSchema.Proofs.TypeExpr.Grammar

/-!
# Quoted runs in the format of a date

Two rules look at the quotes of a value. The grammar pairs them from left to right into runs,
between which other characters may stand. The format is the value without its first and its last
character if these are the same quote, whichever runs they belong to. The rules agree on a value
that is one run, and on a value that does not begin or does not end with a run. They differ on a
value that begins and ends with different runs between the same quotes: one quote of each run is
removed, and the other one is left.

## Main definitions

* `TypeExpr.IsQuotedRun`: a value that is one run as a whole;
* `TypeExpr.IsRunUnquoted`: what is left of a value without the quotes of its run;
* `TypeExpr.EndsInRuns`: a value that begins and ends with different runs between the same quotes;
* `TypeExpr.HasFormatValue`: the value that an expression gives for its format.

## Main results

* `TypeExpr.Balanced.isQuoted_iff`: a value stands between equal quotes if it is one run or ends in
  two;
* `TypeExpr.isRunUnquoted_format_iff`: when a format is the value without the quotes of its run.
-/

namespace DatasetSchema.TypeExpr

/-- The value is one quoted run with the text between its quotes. -/
def IsQuotedRun (value text : List Char) : Prop :=
  ∃ quote, IsQuote quote ∧ quote ∉ text ∧ value = quote :: (text ++ [quote])

/-- The text is the value without its first and its last character if the value is one quoted run,
and the value itself otherwise. -/
def IsRunUnquoted (value text : List Char) : Prop :=
  IsQuotedRun value text ∨ (∀ inner, ¬ IsQuotedRun value inner) ∧ text = value

/-- The value begins with a quoted run and ends with another one between the same quotes. -/
def EndsInRuns (value : List Char) : Prop :=
  ∃ quote first middle last, IsQuote quote ∧ quote ∉ first ∧ Balanced false middle ∧ quote ∉ last ∧
    value = quote :: (first ++ quote :: (middle ++ quote :: (last ++ [quote])))

/-- The expression is the name of the kind with this value between brackets, after the key of
formats or without one. -/
def HasFormatValue (kind : FieldKind) (source value : List Char) : Prop :=
  source = bracketed kind value ∧ ¬ StartsWithKey value ∨
    source = bracketed kind ("fmt".toList ++ '=' :: value)

variable {g : Bool} {quote : Char} {value text s : List Char}

/-! ## Values between equal quotes -/

theorem getLast?_append_cons (front : List Char) (c : Char) (rest : List Char) :
    (front ++ c :: rest).getLast? = some (rest.getLast?.getD c) := by
  rw [List.getLast?_append, List.getLast?_cons, Option.some_or]

/-- A balanced text that ends with a quote ends with a run between such quotes. -/
theorem Balanced.exists_last_run (h : Balanced g s) (hquote : IsQuote quote)
    (hlast : s.getLast? = some quote) :
    ∃ before run, Balanced g before ∧ quote ∉ run ∧ s = before ++ quote :: (run ++ [quote]) := by
  induction h with
  | nil => contradiction
  | @quoted g opening run rest hopening hrun hrest ih =>
    rw [← List.cons_append, getLast?_append_cons] at hlast
    rcases hend : rest.getLast? with _ | c
    -- Nothing stands after the run, so it is the last one.
    · obtain rfl := List.getLast?_eq_none_iff.mp hend
      obtain rfl : opening = quote := Option.some.inj hlast
      exact ⟨[], run, .nil, hrun, rfl⟩
    · rw [hend] at hlast
      obtain ⟨before, last, hbefore, hnot, rfl⟩ := ih (hend.trans hlast)
      refine ⟨opening :: (run ++ opening :: before), last, hbefore.quoted hopening hrun, hnot, ?_⟩
      simp
  | @group g inner rest hinner hrest _ ih =>
    rw [← List.cons_append, getLast?_append_cons] at hlast
    rcases hend : rest.getLast? with _ | c
    · rw [hend] at hlast
      obtain rfl : ']' = quote := Option.some.inj hlast
      exact absurd hquote (by decide)
    · rw [hend] at hlast
      obtain ⟨before, last, hbefore, hnot, rfl⟩ := ih (hend.trans hlast)
      refine ⟨'[' :: (inner ++ ']' :: before), last, hinner.group hbefore, hnot, ?_⟩
      simp
  | @other g c rest hother hopen hclose hcomma hrest ih =>
    rw [List.getLast?_cons] at hlast
    rcases hend : rest.getLast? with _ | d
    · rw [hend] at hlast
      obtain rfl : c = quote := Option.some.inj hlast
      exact absurd hquote hother
    · rw [hend] at hlast
      obtain ⟨before, last, hbefore, hnot, rfl⟩ := ih (hend.trans hlast)
      exact ⟨c :: before, last, hbefore.other hother hopen hclose hcomma, hnot, rfl⟩

/-- The text of a run is found in one way. -/
theorem IsQuoted.eq_of_isQuotedRun {inner : List Char} (h : IsQuoted value text)
    (hrun : IsQuotedRun value inner) : inner = text := by
  obtain ⟨quote, -, hvalue⟩ := h
  obtain ⟨quote', -, -, hvalue'⟩ := hrun
  obtain ⟨rfl, hinner⟩ := List.cons.inj (hvalue'.symm.trans hvalue)
  exact List.append_cancel_right hinner

theorem IsQuotedRun.isQuoted (h : IsQuotedRun value text) : IsQuoted value text := by
  obtain ⟨quote, hquote, -, hvalue⟩ := h
  exact ⟨quote, hquote, hvalue⟩

/-- A value that ends in two runs is not one run. -/
theorem EndsInRuns.not_isQuotedRun (h : EndsInRuns value) : ¬ IsQuotedRun value text := by
  obtain ⟨quote, first, middle, last, -, -, -, -, rfl⟩ := h
  rintro ⟨quote', -, hnot, heq⟩
  obtain ⟨rfl, htext⟩ := List.cons.inj heq
  have hmem : quote ∈ text ++ [quote] → first ++ quote :: (middle ++ quote :: last) = text := by
    intro _
    apply List.append_cancel_right
    rw [← htext]
    simp
  apply hnot
  rw [← hmem (by simp)]
  simp

/-- A balanced value stands between equal quotes exactly if it is one run, or begins and ends with
different runs between such quotes. -/
theorem Balanced.isQuoted_iff (h : Balanced false value) :
    (∃ text, IsQuoted value text) ↔ (∃ text, IsQuotedRun value text) ∨ EndsInRuns value := by
  constructor
  · rintro ⟨text, quote, hquote, hvalue⟩
    cases h with
    | nil => contradiction
    | group =>
      obtain rfl : '[' = quote := (List.cons.inj hvalue).1
      exact absurd hquote (by decide)
    | @other _ c _ hother =>
      obtain rfl : c = quote := (List.cons.inj hvalue).1
      exact absurd hquote hother
    | @quoted _ opening run rest _ hrun hrest =>
      obtain rfl : opening = quote := (List.cons.inj hvalue).1
      rcases hend : rest.getLast? with _ | c
      · obtain rfl := List.getLast?_eq_none_iff.mp hend
        exact .inl ⟨run, opening, hquote, hrun, rfl⟩
      -- The rest after the first run ends with the same quote, so its last run is
      -- between such quotes.
      · have hlast : rest.getLast? = some opening := by
          have hends := congrArg List.getLast? hvalue
          rw [← List.cons_append, getLast?_append_cons, ← List.cons_append,
            List.getLast?_concat] at hends
          rw [hend] at hends
          exact hend.trans hends
        obtain ⟨middle, last, hmiddle, hnot, rfl⟩ := hrest.exists_last_run hquote hlast
        exact .inr ⟨opening, run, middle, last, hquote, hrun, hmiddle, hnot, rfl⟩
  · rintro (⟨text, htext⟩ | ⟨quote, first, middle, last, hquote, -, -, -, rfl⟩)
    · exact ⟨text, htext.isQuoted⟩
    · exact ⟨first ++ quote :: (middle ++ quote :: last), quote, hquote, by simp⟩

/-! ## The format of an expression -/

variable {kind : FieldKind} {source argument : List Char} {format : String} {levels start : Nat}
  {type : FieldType}

/-- A text that is left of a balanced value is left by its run as well, unless the
value ends in two runs. -/
theorem IsUnquoted.isRunUnquoted_iff (h : IsUnquoted value text) (hvalue : Balanced false value) :
    IsRunUnquoted value text ↔ ¬ EndsInRuns value := by
  constructor
  · rintro (hrun | ⟨-, rfl⟩) hends
    · exact hends.not_isQuotedRun hrun
    -- The text that is left of such a value is shorter than the value.
    · have hquoted : ∃ inner, IsQuoted text inner := hvalue.isQuoted_iff.mpr (.inr hends)
      rcases h with ⟨quote, -, heq⟩ | ⟨hnone, -⟩
      · have hlength := congrArg List.length heq
        simp at hlength
        omega
      · obtain ⟨inner, hinner⟩ := hquoted
        exact hnone inner hinner
  · intro hends
    rcases h with hquoted | ⟨hnone, rfl⟩
    · obtain ⟨inner, hinner⟩ := (hvalue.isQuoted_iff.mp ⟨text, hquoted⟩).resolve_right hends
      rw [hquoted.eq_of_isQuotedRun hinner] at hinner
      exact .inl hinner
    · exact .inr ⟨fun inner hinner => hnone inner hinner.isQuoted, rfl⟩

theorem EndsInRuns.isQuoted (h : EndsInRuns value) (hvalue : Balanced false value)
    (htext : IsUnquoted value text) : IsQuoted value text := by
  obtain ⟨inner, hinner⟩ := hvalue.isQuoted_iff.mpr (.inr h)
  exact htext.resolve_right fun hnone => hnone.1 inner hinner

/-- The format of an expression is what is left of a balanced value. -/
theorem IsFormatArgument.exists_value (h : IsFormatArgument argument format) (kind : FieldKind) :
    ∃ value, HasFormatValue kind (bracketed kind argument) value ∧ Balanced false value ∧
      IsUnquoted value format.toList := by
  obtain ⟨value, -, hvalue, hargument, htext, -⟩ := h
  refine ⟨value, ?_, hvalue, htext⟩
  rcases hargument with ⟨rfl, hbare⟩ | rfl
  · exact .inl ⟨rfl, hbare⟩
  · exact .inr rfl

/-- The format of a date or a time, at any level of a list, is the value of the expression without
the quotes of its run if the value does not begin and end with different runs between the same
quotes. If it does, a quote of each of these runs is removed. -/
theorem isRunUnquoted_format_iff (h : denote levels start source = .ok type)
    (hkind : kind = .date ∧ type = .date format ∨ kind = .time ∧ type = .time format) :
    ∃ value, HasFormatValue kind source value ∧ Balanced false value ∧
      (IsRunUnquoted value format.toList ↔ ¬ EndsInRuns value) ∧
      (EndsInRuns value → IsQuoted value format.toList) := by
  have hvalue : ∃ value, HasFormatValue kind source value ∧ Balanced false value ∧
      IsUnquoted value format.toList := by
    rcases hkind with ⟨rfl, rfl⟩ | ⟨rfl, rfl⟩
    · cases denotes_of_denote h with
      | date hargument => exact hargument.exists_value .date
    · cases denotes_of_denote h with
      | time hargument => exact hargument.exists_value .time
  obtain ⟨value, hsource, hvalue, htext⟩ := hvalue
  exact ⟨value, hsource, hvalue, htext.isRunUnquoted_iff hvalue,
    fun hends => hends.isQuoted hvalue htext⟩

/-- A date whose value is two runs with a hyphen between them. -/
def twoRuns : String :=
  "Date[\"%Y\"-\"%m\"]"

theorem ofText_twoRuns : FieldType.ofText twoRuns = .ok (.date "%Y\"-\"%m") := by
  decide +kernel

/-- The quotes in the middle are left in the format. -/
theorem isRunUnquoted_format_twoRuns :
    denote (maxNesting + 1) 0 twoRuns.toList = .ok (.date "%Y\"-\"%m") ∧
      ∃ value, HasFormatValue .date twoRuns.toList value ∧ Balanced false value ∧
        (IsRunUnquoted value "%Y\"-\"%m".toList ↔ ¬ EndsInRuns value) ∧
        (EndsInRuns value → IsQuoted value "%Y\"-\"%m".toList) := by
  have h : denote (maxNesting + 1) 0 twoRuns.toList = .ok (.date "%Y\"-\"%m") :=
    FieldType.ofText_eq_ok_iff_denotedBy.mp ofText_twoRuns
  exact ⟨h, isRunUnquoted_format_iff h (.inl ⟨rfl, rfl⟩)⟩

/-- The value is no run as a whole, and yet it loses its first and its last quote. -/
theorem not_isRunUnquoted_twoRuns :
    FieldType.ofText twoRuns = .ok (.date "%Y\"-\"%m") ∧
      HasFormatValue .date twoRuns.toList "\"%Y\"-\"%m\"".toList ∧
      ¬ IsRunUnquoted "\"%Y\"-\"%m\"".toList "%Y\"-\"%m".toList := by
  refine ⟨ofText_twoRuns, .inl ⟨by decide, ?_⟩, ?_⟩
  · rintro ⟨key, value, -, heq⟩
    have hequals : '=' ∈ "\"%Y\"-\"%m\"".toList :=
      heq ▸ List.mem_append_right key List.mem_cons_self
    exact absurd hequals (by decide)
  · rintro (⟨quote, -, hnot, heq⟩ | ⟨-, heq⟩)
    · obtain rfl : '"' = quote := (List.cons.inj heq).1
      exact absurd hnot (by decide)
    · exact absurd heq (by decide)

end DatasetSchema.TypeExpr
