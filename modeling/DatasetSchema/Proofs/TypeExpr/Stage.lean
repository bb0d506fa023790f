import DatasetSchema.Proofs.TypeExpr.BrokenOff
import DatasetSchema.Proofs.TypeExpr.Lossless

/-!
# How far a text is an expression

A text that is no type expression is one up to some place, and it stops at the last one of these:
the start, the end of the name, the bracket after it, the end of a parameter, or the end of a whole
expression. There is one exception. If the text ends inside a quoted run or a bracketed group, after
parameters that are well formed, then it stops at its end.

## Main definitions

* `TypeExpr.EndsInside`: the texts of the exception;
* `TypeExpr.IsStage`: the places up to which a text is an expression;
* `TypeExpr.IsStop`: the place where a text stops being an expression.

## Main results

* `TypeExpr.IsStage.cases_bracket`: the stages of a text with brackets, told by the segments of its
  list;
* `TypeExpr.exists_isStop_of_bad`, `TypeExpr.isStop_of_closed`, `TypeExpr.isStop_of_open`:
  where such a text stops;
* `TypeExpr.IsStop.exists_expression`: what stands before the place can be completed to an
  expression.
-/

namespace DatasetSchema.TypeExpr

/-! ## Stages -/

/-- After a name and parameters that are well formed, the text ends inside a quoted run or a
bracketed group of the next value. -/
def EndsInside (source : List Char) : Prop :=
  ∃ (name last : List Char) (segments : List (List Char)), IsName name ∧
    (∀ segment ∈ segments, IsParameter segment) ∧ BrokenOff false last ∧
    source = name ++ '[' :: (segments.flatMap (· ++ [',']) ++ last)

/-- A text is an expression as far as the part `before` goes; `after` is the rest of the text. -/
inductive IsStage : (before after : List Char) → Prop
  | start {after : List Char} : IsStage [] after
  /-- The name is taken as a whole. -/
  | name {name after : List Char} :
      IsName name → (∀ c ∈ after.head?, isNameChar c = false) → IsStage name after
  | bracket {name after : List Char} : IsName name → IsStage (name ++ ['[']) after
  /-- The last parameter is a segment as a whole, as those before it are. -/
  | parameters {name after : List Char} {segments : List (List Char)} :
      IsName name → segments ≠ [] → (∀ segment ∈ segments, IsParameter segment) →
      EndsSegment after →
      IsStage (name ++ '[' :: [','].intercalate segments) after
  | expression {before after : List Char} : IsExpression before → IsStage before after

/-- The place between `before` and `after` is where the text stops being an expression: the end of
the text, if it ends inside a value, and otherwise the last of its stages. -/
structure IsStop (source before after : List Char) : Prop where
  /-- The text is cut at the place. -/
  text : source = before ++ after
  /-- A text that ends inside a value goes on to its end. -/
  inside : EndsInside source → after = []
  /-- Every other place is a stage. -/
  stage : ¬ EndsInside source → IsStage before after
  /-- No later place is one. -/
  last : ¬ EndsInside source →
    ∀ other rest, source = other ++ rest → IsStage other rest → other.length ≤ before.length

/-! ## Lists of parameters -/

variable {name before after rest text source segment : List Char} {all segments : List (List Char)}
  {ending : Ending} {c : Char}

theorem IsParameter.balanced (h : IsParameter segment) : Balanced false segment := by
  obtain ⟨p, hp, rfl⟩ := isParameter_iff.mp h
  exact hp.balanced

/-- A balanced text with a quoted run or a group is a parameter: no name and `=` makes up all of
it. -/
theorem isParameter_of_opening (h : Balanced false segment)
    (hopening : ∃ c ∈ segment, IsQuote c ∨ c = '[') : IsParameter segment := by
  obtain ⟨c, hc, hopening⟩ := hopening
  by_cases hkey : StartsWithKey segment
  · obtain ⟨key, value, hname, rfl⟩ := hkey
    refine .keyed hname ?_ (balanced_value_of_key hname h)
    rintro rfl
    rcases List.mem_append.mp hc with hc | hc
    · obtain ⟨⟨hquote, hopen, -⟩, -⟩ := plain_of_isNameChar (hname.2 c hc)
      exact hopening.elim hquote hopen
    · obtain rfl := List.mem_singleton.mp hc
      revert hopening
      decide
  · exact .bare hkey (List.ne_nil_of_mem hc) h

/-- The brackets of an expression may be empty. -/
theorem isExpression_empty (h : IsName name) : IsExpression (name ++ ['[', ']']) :=
  .bracketed h (List.forall_mem_nil IsParameter)

/-- The segments before one of a list are followed by a comma. -/
theorem exists_intercalate_append_cons (h : segments ≠ []) (segment : List Char)
    (others : List (List Char)) :
    ∃ tail, [','].intercalate (segments ++ segment :: others) =
      [','].intercalate segments ++ ',' :: tail := by
  obtain ⟨first, segments, rfl⟩ := List.exists_cons_of_ne_nil h
  rw [List.cons_append, intercalate_cons_eq_flatMap, intercalate_cons_eq_flatMap]
  exact ⟨segment ++ others.flatMap (',' :: ·), by simp⟩

/-- The text of a list begins with that of its first segments. -/
theorem intercalate_isPrefix (h : segments <+: all) :
    [','].intercalate segments <+: [','].intercalate all := by
  obtain ⟨more, rfl⟩ := h
  cases more with
  | nil => simp
  | cons segment more =>
    by_cases hnil : segments = []
    · simp [hnil]
    · obtain ⟨tail, htail⟩ := exists_intercalate_append_cons hnil segment more
      rw [htail]
      exact List.prefix_append _ _

theorem intercalate_concat {last : List Char} :
    [','].intercalate (segments ++ [last]) = segments.flatMap (· ++ [',']) ++ last := by
  induction segments with
  | nil => simp
  | cons first segments ih =>
    obtain ⟨second, others, heq⟩ := List.exists_cons_of_ne_nil
      (List.append_ne_nil_of_right_ne_nil segments (List.cons_ne_nil last []))
    rw [List.cons_append, heq, List.intercalate_cons_cons, ← heq, ih]
    simp

/-- Inside brackets, commas may follow balanced texts. -/
theorem balanced_flatMap_comma (h : ∀ segment ∈ segments, Balanced false segment) :
    Balanced true (segments.flatMap (· ++ [','])) := by
  induction segments with
  | nil => exact .nil
  | cons segment segments ih =>
    obtain ⟨hsegment, hsegments⟩ := List.forall_mem_cons.mp h
    have hcomma : Balanced true [','] :=
      Balanced.nil.other (by decide) (by decide) (by decide) fun _ => rfl
    rw [List.flatMap_cons]
    exact (hsegment.inGroup.append hcomma).append (ih hsegments)

/-! ## The stages of a text with brackets -/

/-- Everything that a text can be read as the start of, if it starts with a name and more follows: a
part of the name, or the name and some of the text between brackets. -/
theorem IsStage.after_name (hstage : IsStage before after) (hname : IsName name)
    (hc : isNameChar c = false) (hsource : name ++ c :: rest = before ++ after) :
    before.length ≤ name.length ∨
      ∃ inner, c = '[' ∧ before = name ++ '[' :: inner ∧ rest = inner ++ after ∧
        (inner = [] ∨
          ∃ segments, (∀ segment ∈ segments, IsParameter segment) ∧
            (segments ≠ [] ∧ EndsSegment after ∧ inner = [','].intercalate segments ∨
              inner = [','].intercalate segments ++ [']'])) := by
  -- A name in the text does not go beyond the character that is no part of one.
  have hpart : ∀ {other : List Char}, IsName other → name ++ c :: rest = other ++ after →
      other.length ≤ name.length := by
    intro other hother heq
    have htake := congrArg (List.takeWhile isNameChar) heq
    rw [hname.takeWhile_append (isNameChar_head?_cons hc),
      List.takeWhile_append_of_pos hother.2] at htake
    rw [htake, List.length_append]
    omega
  -- If a bracket follows a name in the text, then the name is this one.
  have hbrackets : ∀ {other inner : List Char}, IsName other →
      name ++ c :: rest = other ++ '[' :: inner ++ after →
      c = '[' ∧ other = name ∧ rest = inner ++ after := by
    intro other inner hother heq
    rw [List.append_assoc, List.cons_append] at heq
    obtain ⟨hother, hopen, hrest⟩ := hname.append_cons_inj hother hc isNameChar_bracket heq
    exact ⟨hopen, hother.symm, hrest⟩
  cases hstage with
  | start => exact .inl (Nat.zero_le _)
  | name hother => exact .inl (hpart hother hsource)
  | bracket hother =>
    obtain ⟨hopen, rfl, hrest⟩ := hbrackets hother hsource
    exact .inr ⟨[], hopen, rfl, hrest, .inl rfl⟩
  | parameters hother hne hparameters hafter =>
    obtain ⟨hopen, rfl, hrest⟩ := hbrackets hother hsource
    exact .inr ⟨_, hopen, rfl, hrest, .inr ⟨_, hparameters, .inl ⟨hne, hafter, rfl⟩⟩⟩
  | expression hexpression =>
    cases hexpression with
    | name hother => exact .inl (hpart hother hsource)
    | bracketed hother hparameters =>
      obtain ⟨hopen, rfl, hrest⟩ := hbrackets hother hsource
      exact .inr ⟨_, hopen, rfl, hrest, .inr ⟨_, hparameters, .inr rfl⟩⟩

section Brackets

variable (hname : IsName name) (hsplit : IsSplit text all ending)
include hname hsplit

/-- The text ends inside a value if the last segment is broken off and those before it are
parameters. -/
theorem endsInside_bracket_iff :
    EndsInside (name ++ '[' :: text) ↔
      ending = .unfinished ∧ ∀ segment ∈ wholeSegments all ending, IsParameter segment := by
  constructor
  · rintro ⟨name', last, segments, hname', hparameters, hlast, heq⟩
    obtain ⟨-, -, rfl⟩ := hname.append_cons_inj hname' isNameChar_bracket isNameChar_bracket heq
    obtain ⟨rfl, rfl⟩ :=
      hsplit.unique (.of_brokenOff (fun s hs => (hparameters s hs).balanced) hlast)
    refine ⟨rfl, ?_⟩
    simpa [wholeSegments] using hparameters
  · rintro ⟨rfl, hparameters⟩
    obtain ⟨last, hall, hlast⟩ := hsplit.exists_brokenOff
    refine ⟨name, last, _, hname, hparameters, hlast, ?_⟩
    rw [← intercalate_concat, ← hall, hsplit.text_eq]
    simp [Ending.tail]

/-- The stages of a text with brackets: up to the bracket, up to the end of one of the first
segments, or up to the closing bracket. -/
theorem IsStage.cases_bracket (hstage : IsStage before after)
    (hsource : name ++ '[' :: text = before ++ after) :
    before.length ≤ name.length + 1 ∨
      (∃ segments, segments <+: all ∧ (∀ segment ∈ segments, IsParameter segment) ∧
        before = name ++ '[' :: [','].intercalate segments) ∨
      ending = .closed after ∧ (all = [[]] ∨ ∀ segment ∈ all, IsParameter segment) := by
  rcases hstage.after_name hname isNameChar_bracket hsource with hle | ⟨inner, -, rfl, rfl, hinner⟩
  · exact .inl (Nat.le_succ_of_le hle)
  rcases hinner with rfl | ⟨segments, hparameters, ⟨hne, hafter, rfl⟩ | rfl⟩
  · left
    simp
  · -- A text is split in one way, so the segments of the stage are the first of the split.
    obtain ⟨more, _, hmore⟩ :=
      exists_isSplit_append hne (fun s hs => (hparameters s hs).balanced) hafter
    obtain ⟨rfl, rfl⟩ := hsplit.unique hmore
    exact .inr (.inl ⟨segments, List.prefix_append _ _, hparameters, rfl⟩)
  · right
    right
    rw [List.append_assoc, List.singleton_append] at hsplit
    cases segments with
    | nil =>
      obtain ⟨rfl, rfl⟩ := hsplit.unique (.closed .nil)
      exact ⟨rfl, .inl rfl⟩
    | cons first others =>
      have hbalanced : ∀ segment ∈ first :: others, Balanced false segment :=
        fun s hs => (hparameters s hs).balanced
      simp only [intercalate_cons_eq_flatMap, List.singleton_append] at hsplit
      have hclosed := isSplit_segments (first ++ others.flatMap (',' :: ·) ++ ']' :: after)
      rw [segments_of_balanced hbalanced] at hclosed
      obtain ⟨rfl, rfl⟩ := hsplit.unique hclosed
      exact ⟨rfl, .inr hparameters⟩

/-- If a segment is no parameter, the text is an expression as far as the segments
before it go at most. -/
theorem IsStage.length_le_of_bad {good more : List (List Char)} {bad : List Char}
    (hall : all ≠ [[]]) (hwhole : wholeSegments all ending = good ++ bad :: more)
    (hbad : ¬ IsParameter bad)
    (hstage : IsStage before after) (hsource : name ++ '[' :: text = before ++ after) :
    before.length ≤ (name ++ '[' :: [','].intercalate good).length := by
  have hbefore : good ++ [bad] <+: all := by
    have hsegments := wholeSegments_isPrefix all ending
    rw [hwhole] at hsegments
    exact List.IsPrefix.trans ⟨more, by simp⟩ hsegments
  rcases hstage.cases_bracket hname hsplit hsource with
    hle | ⟨segments, hsegments, hparameters, rfl⟩ | ⟨rfl, hempty | hparameters⟩
  · simp only [List.length_append, List.length_cons]
    omega
  · -- More segments than the good ones would have the bad one among them.
    have hle : segments <+: good := by
      rcases List.prefix_or_prefix_of_prefix hsegments hbefore with hle | hge
      · rcases List.prefix_concat_iff.mp hle with rfl | hle
        · exact absurd (hparameters bad (by simp)) hbad
        · exact hle
      · exact absurd (hparameters bad (hge.subset (by simp))) hbad
    have hlength := (intercalate_isPrefix hle).length_le
    simp only [List.length_append, List.length_cons]
    omega
  · exact absurd hempty hall
  · exact absurd (hparameters bad (hbefore.subset (by simp))) hbad

/-- Before a segment that is no parameter the text stops, if those before it are parameters. -/
theorem exists_isStop_of_bad {good more : List (List Char)} {bad : List Char} (hall : all ≠ [[]])
    (hwhole : wholeSegments all ending = good ++ bad :: more)
    (hgood : ∀ segment ∈ good, IsParameter segment) (hbad : ¬ IsParameter bad) :
    ∃ after, IsStop (name ++ '[' :: text) (name ++ '[' :: [','].intercalate good) after ∧
      text = [','].intercalate good ++ after ∧ (good ≠ [] → after.head? = some ',') := by
  have hinside : ¬ EndsInside (name ++ '[' :: text) := by
    rw [endsInside_bracket_iff hname hsplit, hwhole]
    rintro ⟨-, hparameters⟩
    exact hbad (hparameters bad (by simp))
  have hlast : ∀ other rest, name ++ '[' :: text = other ++ rest → IsStage other rest →
      other.length ≤ (name ++ '[' :: [','].intercalate good).length := fun _ _ hsource hstage =>
    hstage.length_le_of_bad hname hsplit hall hwhole hbad hsource
  obtain ⟨others, hothers⟩ := wholeSegments_isPrefix all ending
  have hmore : good ++ bad :: (more ++ others) = all := by
    rw [← hothers, hwhole]
    simp
  -- Before the first segment the text stops behind the bracket, otherwise before a comma.
  by_cases hnil : good = []
  · subst hnil
    refine ⟨text, ⟨by simp, fun h => absurd h hinside, fun _ => .bracket hname, fun _ => hlast⟩,
      by simp, fun h => absurd rfl h⟩
  · obtain ⟨tail, htail⟩ := exists_intercalate_append_cons hnil bad (more ++ others)
    have htext : text = [','].intercalate good ++ (',' :: tail ++ ending.tail) := by
      rw [hsplit.text_eq, ← hmore, htail]
      simp
    refine ⟨_, ⟨?_, fun h => absurd h hinside, fun _ => ?_, fun _ => hlast⟩, htext, fun _ => rfl⟩
    · rw [htext]
      simp
    · exact .parameters hname hnil hgood endsSegment_comma

/-- If the list is closed and its segments are parameters, the text stops behind the closing
bracket. -/
theorem isStop_of_closed (hending : ending = .closed after)
    (hgood : all = [[]] ∨ ∀ segment ∈ all, IsParameter segment) :
    IsStop (name ++ '[' :: text) (name ++ '[' :: ([','].intercalate all ++ [']'])) after := by
  have htext : name ++ '[' :: text = name ++ '[' :: ([','].intercalate all ++ [']']) ++ after := by
    rw [hsplit.text_eq, hending]
    simp [Ending.tail]
  have hinside : ¬ EndsInside (name ++ '[' :: text) := by
    rw [endsInside_bracket_iff hname hsplit, hending]
    exact fun h => Ending.noConfusion h.1
  refine ⟨htext, fun h => absurd h hinside, fun _ => .expression ?_,
    fun _ other rest hsource hstage => ?_⟩
  · rcases hgood with rfl | hparameters
    · exact isExpression_empty hname
    · exact .bracketed hname hparameters
  · -- No stage goes further than the closing bracket.
    rcases hstage.cases_bracket hname hsplit hsource with
      hle | ⟨segments, hsegments, -, rfl⟩ | ⟨hrest, -⟩
    · simp only [List.length_append, List.length_cons]
      omega
    · have hlength := (intercalate_isPrefix hsegments).length_le
      simp only [List.length_append, List.length_cons]
      omega
    · -- The same rest is left.
      obtain rfl : after = rest := by
        rw [hending] at hrest
        exact Ending.closed.inj hrest
      have hlength := congrArg List.length (hsource.symm.trans htext)
      simp only [List.length_append] at hlength ⊢
      omega

/-- If the list is not closed and its whole segments are parameters, the text stops at its end. -/
theorem isStop_of_open (hending : ∀ rest, ending ≠ .closed rest)
    (hgood : all = [[]] ∨ ∀ segment ∈ wholeSegments all ending, IsParameter segment) :
    IsStop (name ++ '[' :: text) (name ++ '[' :: text) [] := by
  refine ⟨(List.append_nil _).symm, fun _ => rfl, fun hinside => ?_,
    fun _ other rest hsource _ => ?_⟩
  · rw [endsInside_bracket_iff hname hsplit] at hinside
    cases hcase : ending with
    | closed rest => exact absurd hcase (hending rest)
    | unfinished =>
      subst hcase
      -- A segment that is broken off is not empty, so there are parameters before it.
      rcases hgood with rfl | hparameters
      · obtain ⟨last, hlast, hbroken⟩ := hsplit.exists_brokenOff
        obtain rfl : [] = last := by simpa [wholeSegments] using hlast
        obtain ⟨_, hmem, -⟩ := hbroken.exists_opening
        exact absurd hmem List.not_mem_nil
      · exact absurd ⟨rfl, hparameters⟩ hinside
    | unclosed =>
      subst hcase
      have htext : text = [','].intercalate all := by simpa [Ending.tail] using hsplit.text_eq
      rw [htext]
      rcases hgood with rfl | hparameters
      · exact .bracket hname
      · exact .parameters hname hsplit.ne_nil hparameters endsSegment_nil
  · rw [hsource, List.length_append]
    omega

end Brackets

/-- A text without a name at its start stops there. -/
theorem isStop_of_no_name (h : source.takeWhile isNameChar = []) : IsStop source [] source := by
  have hname : ∀ name tail, IsName name → source ≠ name ++ tail := by
    rintro name tail hname rfl
    rw [List.takeWhile_append_of_pos hname.2] at h
    exact hname.1 (List.append_eq_nil_iff.mp h).1
  refine ⟨rfl, ?_, fun _ => .start, fun _ other rest hsource hstage => ?_⟩
  · rintro ⟨name, last, segments, hname', -, -, hsource⟩
    exact absurd hsource (hname _ _ hname')
  · cases hstage with
    | start => exact le_rfl
    | name hname' => exact absurd hsource (hname _ _ hname')
    | bracket hname' => exact absurd (hsource.trans (List.append_assoc _ _ _)) (hname _ _ hname')
    | parameters hname' => exact absurd (hsource.trans (List.append_assoc _ _ _)) (hname _ _ hname')
    | expression hexpression =>
      cases hexpression with
      | name hname' => exact absurd hsource (hname _ _ hname')
      | bracketed hname' =>
        exact absurd (hsource.trans (List.append_assoc _ _ _)) (hname _ _ hname')

/-- A name that is followed by something else than a bracket is all that there is of an
expression. -/
theorem isStop_of_name (hname : IsName name) (hc : isNameChar c = false) (hopen : c ≠ '[') :
    IsStop (name ++ c :: rest) name (c :: rest) := by
  refine ⟨rfl, ?_, fun _ => .name hname (isNameChar_head?_cons hc),
    fun _ other after hsource hstage => ?_⟩
  · rintro ⟨name', last, segments, hname', -, -, hsource⟩
    exact absurd (hname.append_cons_inj hname' hc isNameChar_bracket hsource).2.1 hopen
  · rcases hstage.after_name hname hc hsource with hle | ⟨_, rfl, -⟩
    · exact hle
    · exact absurd rfl hopen

/-! ## Completing an expression -/

/-- The beginning of a text nests no deeper than the text. -/
theorem Nesting.peak_le_append (n : Nesting) (s t : List Char) : n.peak s ≤ n.peak (s ++ t) := by
  induction s generalizing n with
  | nil => exact depth_le_peak n t
  | cons c s ih => exact max_le_max le_rfl (ih (n.step c))

/-- A closing bracket at the end of a text does not nest deeper. -/
theorem Nesting.peak_concat_close (n : Nesting) (s : List Char) :
    n.peak (s ++ [']']) = n.peak s := by
  induction s generalizing n with
  | nil =>
    have hle : (n.step ']').depth ≤ n.depth := depth_step_le (by simp)
    simpa [peak] using hle
  | cons c s ih => rw [List.cons_append, peak, peak, ih]

/-- After a text of which it is not known how it goes on, it can be completed to an expression
that nests no deeper. -/
theorem IsStage.exists_completion (hstage : IsStage before after) :
    ∃ rest, IsExpression (before ++ rest) ∧
      nestingDepth (before ++ rest) ≤ nestingDepth before := by
  have hclose : ∀ s, nestingDepth (s ++ [']']) ≤ nestingDepth s := fun s =>
    (Nesting.peak_concat_close .outside s).le
  have hend : nestingDepth (before ++ []) ≤ nestingDepth before := by rw [List.append_nil]
  cases hstage with
  | start =>
    refine ⟨['A'], .name (isName_of_isAlphanum (List.cons_ne_nil _ _) (by decide)), ?_⟩
    decide
  | name hname => exact ⟨[], by simpa using IsExpression.name hname, hend⟩
  | bracket hname =>
    refine ⟨[']'], ?_, hclose _⟩
    simpa using isExpression_empty hname
  | parameters hname _ hparameters =>
    refine ⟨[']'], ?_, hclose _⟩
    simpa using IsExpression.bracketed hname hparameters
  | expression hexpression => exact ⟨[], by simpa using hexpression, hend⟩

/-- What is open at the end of a text can be closed so that the text is an expression. -/
theorem EndsInside.exists_completion (h : EndsInside source) :
    ∃ rest, IsExpression (source ++ rest) ∧
      nestingDepth (source ++ rest) ≤ nestingDepth source := by
  obtain ⟨name, last, segments, hname, hparameters, hlast, rfl⟩ := h
  obtain ⟨closing, hbalanced, hpeak⟩ := hlast.exists_closing
  have hjoined := balanced_flatMap_comma fun segment hsegment =>
    (hparameters segment hsegment).balanced
  -- What has been opened is part of the last segment, so this is not empty.
  have hparameter : IsParameter (last ++ closing) := by
    obtain ⟨c, hc, hopening⟩ := hlast.exists_opening
    exact isParameter_of_opening hbalanced ⟨c, List.mem_append_left _ hc, hopening⟩
  refine ⟨closing ++ [']'], ?_, ?_⟩
  · have hall : ∀ segment ∈ segments ++ [last ++ closing], IsParameter segment :=
      List.forall_mem_append.mpr ⟨hparameters, List.forall_mem_singleton.mpr hparameter⟩
    have hexpression := IsExpression.bracketed hname hall
    rw [intercalate_concat] at hexpression
    simpa using hexpression
  · rw [← List.append_assoc, nestingDepth, Nesting.peak_concat_close, ← nestingDepth,
      List.append_assoc, List.cons_append, nestingDepth_name_bracket hname,
      nestingDepth_name_bracket hname, List.append_assoc, hjoined.peak_append,
      hjoined.peak_append]
    exact max_le_max le_rfl (hpeak 1)

/-- What stands before the place where a text stops can be completed to an expression that nests no
deeper than the text. -/
theorem IsStop.exists_expression (hstop : IsStop source before after) :
    ∃ rest, IsExpression (before ++ rest) ∧
      nestingDepth (before ++ rest) ≤ nestingDepth source := by
  have hbefore : nestingDepth before ≤ nestingDepth source := by
    rw [hstop.text]
    exact Nesting.peak_le_append .outside before after
  obtain ⟨rest, hexpression, hrest⟩ : ∃ rest, IsExpression (before ++ rest) ∧
      nestingDepth (before ++ rest) ≤ nestingDepth before := by
    by_cases hinside : EndsInside source
    · have hwhole : source = before := by simpa [hstop.inside hinside] using hstop.text
      subst hwhole
      exact hinside.exists_completion
    · exact (hstop.stage hinside).exists_completion
  exact ⟨rest, hexpression, hrest.trans hbefore⟩

end DatasetSchema.TypeExpr
