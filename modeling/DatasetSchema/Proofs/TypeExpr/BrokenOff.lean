import DatasetSchema.Proofs.TypeExpr.Segments

/-!
# Texts that are broken off

A text that is no balanced one goes wrong in one of two ways. Either it ends inside a quoted run or
a bracketed group that it has opened, or a balanced part of it is followed by a character that
cannot stand there: a closing bracket without an open one, or, outside all groups, a comma. The text
after an opening bracket is taken apart in this way, and its segments are the parts.

## Main definitions

* `TypeExpr.BrokenOff`: a text that ends inside a quoted run or a bracketed group;
* `TypeExpr.IsSplit`: a text as a sequence of segments, and how the last of them ends.

## Main results

* `TypeExpr.splits`: every text is balanced or goes wrong in one of the two ways;
* `TypeExpr.BrokenOff.exists_closing`: what is open at the end can be closed, without nesting
  deeper;
* `TypeExpr.isSplit_segments`, `TypeExpr.IsSplit.unique`: every text is split in one way,
  and this one is found.
-/

namespace DatasetSchema.TypeExpr

/-- A text that ends inside a quoted run or a bracketed group which it has opened. What stands
before the opening quote or bracket is balanced. -/
inductive BrokenOff : (inGroup : Bool) → List Char → Prop
  | quoted {g : Bool} {quote : Char} {run : List Char} :
      IsQuote quote → quote ∉ run → BrokenOff g (quote :: run)
  | group {g : Bool} {inner : List Char} : Balanced true inner → BrokenOff g ('[' :: inner)
  | nested {g : Bool} {inner : List Char} : BrokenOff true inner → BrokenOff g ('[' :: inner)
  | append {g : Bool} {s t : List Char} : Balanced g s → BrokenOff g t → BrokenOff g (s ++ t)

variable {g : Bool} {d : Nat} {c quote : Char} {n : Nesting} {s t rest run : List Char}

/-! ## Three ways to end -/

/-- The text is balanced, it is broken off, or after a balanced part comes a
character that ends it. -/
def Splits (g : Bool) (s : List Char) : Prop :=
  Balanced g s ∨ BrokenOff g s ∨
    ∃ before c after, Balanced g before ∧ s = before ++ c :: after ∧ (c = ']' ∨ c = ',' ∧ g = false)

/-- A balanced text may come first. -/
theorem Splits.prepend (hs : Balanced g s) (ht : Splits g t) : Splits g (s ++ t) := by
  obtain ht | ht | ⟨before, c, after, hbefore, rfl, hc⟩ := ht
  · exact .inl (hs.append ht)
  · exact .inr (.inl (.append hs ht))
  · exact .inr (.inr ⟨s ++ before, c, after, hs.append hbefore, by simp, hc⟩)

/-- Every text ends in one of the three ways. -/
theorem splits (g : Bool) (s : List Char) : Splits g s := by
  -- The induction is over the length: after a run or a group, the text goes on behind its end.
  induction hlength : s.length using Nat.strong_induction_on generalizing g s with
  | _ length ih =>
    subst hlength
    cases s with
    | nil => exact .inl .nil
    | cons c s =>
      have hrest : ∀ g, Splits g s := fun g => ih s.length (Nat.lt_succ_self _) g s rfl
      by_cases hquote : IsQuote c
      · by_cases hmem : c ∈ s
        · obtain ⟨run, after, rfl, hrun⟩ := List.eq_append_cons_of_mem hmem
          have hafter : Splits g after := ih after.length (by simp; omega) g after rfl
          have hquoted : Balanced g (c :: (run ++ [c])) := Balanced.nil.quoted hquote hrun
          simpa using hafter.prepend hquoted
        · exact .inr (.inl (.quoted hquote hmem))
      by_cases hopen : c = '['
      · subst hopen
        obtain hinner | hinner | ⟨inner, c, after, hinner, rfl, hc⟩ := hrest true
        · exact .inr (.inl (.group hinner))
        · exact .inr (.inl (.nested hinner))
        · -- Inside a group only the closing bracket ends the text.
          obtain rfl : c = ']' := by simpa using hc
          have hafter : Splits g after := ih after.length (by simp; omega) g after rfl
          have hgroup : Balanced g ('[' :: (inner ++ [']'])) := hinner.group .nil
          simpa using hafter.prepend hgroup
      by_cases hclose : c = ']'
      · exact .inr (.inr ⟨[], c, s, .nil, rfl, .inl hclose⟩)
      by_cases hcomma : c = ',' ∧ g = false
      · exact .inr (.inr ⟨[], c, s, .nil, rfl, .inr hcomma⟩)
      · have hsingle : Balanced g [c] := by
          refine Balanced.nil.other hquote hopen hclose fun hc => ?_
          simpa [hc] using hcomma
        exact (hrest g).prepend hsingle

/-! ## Closing what is open -/

theorem Nesting.peak_close : (⟨none, d + 1⟩ : Nesting).peak [']'] = d + 1 := by
  rw [peak, step_close, peak]
  simp

theorem Balanced.peak_eq (h : Balanced g s) :
    (⟨none, d⟩ : Nesting).peak s = d + nestingDepth s := by
  have happend : (⟨none, d⟩ : Nesting).peak (s ++ []) = max (d + nestingDepth s) d := h.peak_append
  rw [← List.append_nil s, happend, List.append_nil]
  exact max_eq_left (Nat.le_add_right _ _)

/-- What is open at the end of a text can be closed, and the text does not nest deeper then. -/
theorem BrokenOff.exists_closing (h : BrokenOff g s) :
    ∃ closing, Balanced g (s ++ closing) ∧
      ∀ d, (⟨none, d⟩ : Nesting).peak (s ++ closing) ≤ (⟨none, d⟩ : Nesting).peak s := by
  induction h with
  | @quoted g quote run hquote hrun =>
    refine ⟨[quote], Balanced.nil.quoted hquote hrun, fun d => ?_⟩
    rw [List.cons_append, Nesting.peak, Nesting.step_quote hquote, Nesting.peak_quoted hrun]
    have hdepth := Nesting.depth_le_peak ⟨none, d⟩ (quote :: run)
    exact max_le hdepth hdepth
  | @group g inner hinner =>
    refine ⟨[']'], hinner.group .nil, fun d => ?_⟩
    rw [List.cons_append, Nesting.peak, Nesting.peak, Nesting.step_open, hinner.peak_append,
      hinner.peak_eq, Nesting.peak_close]
    exact max_le_max le_rfl (max_le le_rfl (Nat.le_add_right _ _))
  | @nested g inner _ ih =>
    obtain ⟨closing, hclosing, hpeak⟩ := ih
    refine ⟨closing ++ [']'], ?_, fun d => ?_⟩
    · simpa using hclosing.group (g := g) .nil
    · have hle := hpeak (d + 1)
      rw [hclosing.peak_eq] at hle
      rw [List.cons_append, Nesting.peak, Nesting.peak, Nesting.step_open, ← List.append_assoc,
        hclosing.peak_append, Nesting.peak_close]
      omega
  | @append g s t hs _ ih =>
    obtain ⟨closing, hclosing, hpeak⟩ := ih
    refine ⟨closing, ?_, fun d => ?_⟩
    · rw [List.append_assoc]
      exact hs.append hclosing
    · rw [List.append_assoc, hs.peak_append, hs.peak_append]
      exact max_le_max le_rfl (hpeak d)

/-- A text that is broken off has opened a run or a group. -/
theorem BrokenOff.exists_opening (h : BrokenOff g s) : ∃ c ∈ s, IsQuote c ∨ c = '[' := by
  induction h with
  | @quoted _ quote run hquote => exact ⟨quote, List.mem_cons_self, .inl hquote⟩
  | group | nested => exact ⟨'[', List.mem_cons_self, .inr rfl⟩
  | append _ _ ih =>
    obtain ⟨c, hc, hopening⟩ := ih
    exact ⟨c, List.mem_append_right _ hc, hopening⟩

/-! ## Segments -/

/-- A run that is not closed is the end of its segment. -/
theorem segments_unclosed (h : quote ∉ run) :
    segments ⟨some quote, d⟩ run = ⟨run, [], .unfinished⟩ := by
  have hinside : ¬ (⟨some quote, d⟩ : Nesting).isOutside := by simp [Nesting.isOutside]
  induction run with
  | nil => rfl
  | cons c run ih =>
    obtain ⟨hc, hrun⟩ : c ≠ quote ∧ quote ∉ run := by simpa [eq_comm] using h
    rw [segments_cons (hinside ·.1) (hinside ·.1), Nesting.step_quoted hc, ih hrun]
    rfl

/-- A text that is broken off is one segment, and the list ends inside it. -/
theorem BrokenOff.segments_eq (h : BrokenOff g s) (hg : g = true → 0 < d) :
    segments ⟨none, d⟩ s = ⟨s, [], .unfinished⟩ := by
  have hcomma : '[' ≠ ',' := by decide
  have hclose : '[' ≠ ']' := by decide
  induction h generalizing d with
  | @quoted g quote run hquote hrun =>
    have hcomma : quote ≠ ',' := by rcases hquote with rfl | rfl <;> decide
    have hclose : quote ≠ ']' := by rcases hquote with rfl | rfl <;> decide
    rw [segments_cons (hcomma ·.2) (hclose ·.2), Nesting.step_quote hquote, segments_unclosed hrun]
    rfl
  | @group g inner hinner =>
    have hsplit : segments ⟨none, d + 1⟩ (inner ++ []) =
        (segments ⟨none, d + 1⟩ []).prepend inner :=
      hinner.segments_append fun _ => Nat.succ_pos d
    rw [List.append_nil] at hsplit
    rw [segments_cons (hcomma ·.2) (hclose ·.2), Nesting.step_open, hsplit]
    simp [segments, Segments.prepend, Nesting.isOutside]
  | @nested g inner _ ih =>
    rw [segments_cons (hcomma ·.2) (hclose ·.2), Nesting.step_open, ih fun _ => Nat.succ_pos d]
    rfl
  | @append g s t hs _ ih =>
    rw [hs.segments_append hg, ih hg]
    rfl

/-- Outside of all brackets, a text that is broken off is one segment. -/
theorem BrokenOff.segments_outside (h : BrokenOff false s) :
    segments .outside s = ⟨s, [], .unfinished⟩ :=
  h.segments_eq fun hg => absurd hg Bool.false_ne_true

/-- Outside of all brackets, a balanced text begins the first segment. -/
theorem Balanced.segments_outside_append (h : Balanced false s) :
    segments .outside (s ++ rest) = (segments .outside rest).prepend s :=
  h.segments_append fun hg => absurd hg Bool.false_ne_true

/-- A balanced text is one segment, and the list is not closed in it. -/
theorem Balanced.segments_eq (h : Balanced false s) : segments .outside s = ⟨s, [], .unclosed⟩ := by
  rw [← List.append_nil s, h.segments_outside_append]
  rfl

/-- All segments of a list, the first one included. -/
def Segments.all (split : Segments) : List (List Char) :=
  split.first :: split.others

/-- The text is split at commas into balanced segments, up to a closing bracket or its end. The last
segment may be broken off by the end. -/
inductive IsSplit : List Char → List (List Char) → Ending → Prop
  | unclosed {s : List Char} : Balanced false s → IsSplit s [s] .unclosed
  | unfinished {s : List Char} : BrokenOff false s → IsSplit s [s] .unfinished
  | closed {s rest : List Char} : Balanced false s → IsSplit (s ++ ']' :: rest) [s] (.closed rest)
  | comma {s text : List Char} {all : List (List Char)} {ending : Ending} :
      Balanced false s → IsSplit text all ending → IsSplit (s ++ ',' :: text) (s :: all) ending

/-- A text is split into the segments that are found. -/
theorem isSplit_segments (text : List Char) :
    IsSplit text (segments .outside text).all (segments .outside text).ending := by
  -- The segments after a comma are those of a shorter text.
  induction hlength : text.length using Nat.strong_induction_on generalizing text with
  | _ length ih =>
    subst hlength
    obtain hs | hs | ⟨before, c, after, hbefore, rfl, rfl | ⟨rfl, -⟩⟩ := splits false text
    · rw [hs.segments_eq]
      exact .unclosed hs
    · rw [hs.segments_outside]
      exact .unfinished hs
    · rw [hbefore.segments_outside_append, segments_close]
      simpa [Segments.prepend, Segments.all] using IsSplit.closed hbefore
    · have hafter := ih after.length (by simp; omega) after rfl
      rw [hbefore.segments_outside_append, segments_comma]
      simpa [Segments.prepend, Segments.all] using IsSplit.comma hbefore hafter

/-- The segments of a text are those that are found. -/
theorem IsSplit.eq_segments {text : List Char} {all : List (List Char)} {ending : Ending}
    (h : IsSplit text all ending) :
    all = (segments .outside text).all ∧ ending = (segments .outside text).ending := by
  induction h with
  | unclosed hs =>
    rw [hs.segments_eq]
    exact ⟨rfl, rfl⟩
  | unfinished hs =>
    rw [hs.segments_outside]
    exact ⟨rfl, rfl⟩
  | closed hs =>
    rw [hs.segments_outside_append, segments_close]
    simp [Segments.prepend, Segments.all]
  | comma hs _ ih =>
    rw [hs.segments_outside_append, segments_comma]
    simpa [Segments.prepend, Segments.all] using ih

/-- A text is split in one way only. -/
theorem IsSplit.unique {text : List Char} {all all' : List (List Char)} {ending ending' : Ending}
    (h : IsSplit text all ending) (h' : IsSplit text all' ending') :
    all = all' ∧ ending = ending' :=
  ⟨h.eq_segments.1.trans h'.eq_segments.1.symm, h.eq_segments.2.trans h'.eq_segments.2.symm⟩

/-! ## What a split tells of the text -/

variable {text after : List Char} {all segments : List (List Char)} {ending : Ending}

/-- The segments that the text does not end inside. -/
def wholeSegments (all : List (List Char)) (ending : Ending) : List (List Char) :=
  if ending = .unfinished then all.dropLast else all

theorem wholeSegments_isPrefix (all : List (List Char)) (ending : Ending) :
    wholeSegments all ending <+: all := by
  rw [wholeSegments]
  split
  · exact List.dropLast_prefix all
  · exact List.prefix_rfl

/-- What follows the segments. -/
def Ending.tail : Ending → List Char
  | .closed rest => ']' :: rest
  | _ => []

namespace IsSplit

theorem ne_nil (h : IsSplit text all ending) : all ≠ [] := by
  cases h <;> exact List.cons_ne_nil _ _

/-- The segments with commas between them and what follows are the text. -/
theorem text_eq (h : IsSplit text all ending) : text = [','].intercalate all ++ ending.tail := by
  induction h with
  | unclosed | unfinished | closed => simp [Ending.tail]
  | comma _ hrest ih =>
    obtain ⟨second, others, rfl⟩ := List.exists_cons_of_ne_nil hrest.ne_nil
    rw [List.intercalate_cons_cons, ih]
    simp

theorem balanced (h : IsSplit text all ending) :
    ∀ segment ∈ wholeSegments all ending, Balanced false segment := by
  induction h with
  | unclosed hs | closed hs => simpa [wholeSegments] using hs
  | unfinished => simp [wholeSegments]
  | @comma s text all ending hs hrest ih =>
    obtain ⟨second, others, rfl⟩ := List.exists_cons_of_ne_nil hrest.ne_nil
    have hwhole : wholeSegments (s :: second :: others) ending =
        s :: wholeSegments (second :: others) ending := by
      by_cases hending : ending = .unfinished <;> simp [wholeSegments, hending]
    rw [hwhole]
    exact List.forall_mem_cons.mpr ⟨hs, ih⟩

/-- A text that ends inside a segment has that segment last. -/
theorem of_brokenOff {last : List Char} (h : ∀ segment ∈ segments, Balanced false segment)
    (hlast : BrokenOff false last) :
    IsSplit (segments.flatMap (· ++ [',']) ++ last) (segments ++ [last]) .unfinished := by
  induction segments with
  | nil => exact .unfinished hlast
  | cons segment segments ih =>
    obtain ⟨hsegment, hsegments⟩ := List.forall_mem_cons.mp h
    simpa using (ih hsegments).comma hsegment

/-- Of the last segment, nothing is known if the text ends inside it but that it is broken off. -/
theorem exists_brokenOff (h : IsSplit text all .unfinished) :
    ∃ last, all = wholeSegments all .unfinished ++ [last] ∧ BrokenOff false last := by
  generalize hending : Ending.unfinished = ending at h
  induction h with
  | unclosed | closed => contradiction
  | @unfinished s hs => exact ⟨s, rfl, hs⟩
  | @comma s text all ending _ hrest ih =>
    obtain ⟨last, hall, hlast⟩ := ih hending
    refine ⟨last, ?_, hlast⟩
    simp only [wholeSegments, hending, if_true] at hall ⊢
    rw [List.dropLast_cons_of_ne_nil hrest.ne_nil, List.cons_append, ← hall]

end IsSplit

/-- A segment ends before a comma, before a closing bracket and at the end of the text. -/
def EndsSegment (after : List Char) : Prop :=
  ∀ c ∈ after.head?, c = ',' ∨ c = ']'

theorem endsSegment_nil : EndsSegment [] := by
  simp [EndsSegment]

theorem endsSegment_comma : EndsSegment (',' :: after) := by
  simp [EndsSegment]

theorem endsSegment_close : EndsSegment (']' :: after) := by
  simp [EndsSegment]

/-- Balanced texts that begin a text, as whole segments, are the first of its segments. -/
theorem exists_isSplit_append (hne : segments ≠ [])
    (h : ∀ segment ∈ segments, Balanced false segment) (hafter : EndsSegment after) :
    ∃ more ending, IsSplit ([','].intercalate segments ++ after) (segments ++ more) ending := by
  induction segments with
  | nil => exact absurd rfl hne
  | cons segment segments ih =>
    obtain ⟨hsegment, hsegments⟩ := List.forall_mem_cons.mp h
    cases segments with
    | nil =>
      rw [List.intercalate_singleton]
      cases after with
      | nil => exact ⟨[], _, by simpa using IsSplit.unclosed hsegment⟩
      | cons c after =>
        rcases hafter c rfl with rfl | rfl
        · exact ⟨_, _, .comma hsegment (isSplit_segments after)⟩
        · exact ⟨[], _, .closed hsegment⟩
    | cons second segments =>
      obtain ⟨more, ending, hsplit⟩ := ih (List.cons_ne_nil _ _) hsegments
      refine ⟨more, ending, ?_⟩
      rw [List.intercalate_cons_cons]
      simpa using hsplit.comma hsegment

end DatasetSchema.TypeExpr
