import DatasetSchema.Proofs.TypeExpr.Balanced

/-!
# Splitting a parameter list

The text after an opening bracket is split at commas, which do not count inside quoted runs
and bracketed groups. The texts between the commas are balanced, and every sequence of
balanced texts is found again.

## Main results

* `TypeExpr.segments_eq_closed_iff`: a list that is closed is split into its balanced segments.
-/

namespace DatasetSchema

/-- Lists with a separator between them are the first one and the others, each after the
separator. -/
theorem intercalate_cons_eq_flatMap {α : Type} (separator first : List α) (others : List (List α)) :
    separator.intercalate (first :: others) = first ++ others.flatMap (separator ++ ·) := by
  induction others generalizing first with
  | nil => simp
  | cons second others ih => simp [List.intercalate_cons_cons, ih]

namespace TypeExpr

/-- The text closes whatever is open at a place, and is balanced from there on. -/
inductive Closes : Nesting → List Char → Prop
  | outside {s : List Char} : Balanced false s → Closes ⟨none, 0⟩ s
  | group {d : Nat} {inner s : List Char} :
      Balanced true inner → Closes ⟨none, d⟩ s → Closes ⟨none, d + 1⟩ (inner ++ ']' :: s)
  | quoted {d : Nat} {quote : Char} {run s : List Char} :
      quote ∉ run → Closes ⟨none, d⟩ s → Closes ⟨some quote, d⟩ (run ++ quote :: s)

namespace Closes

variable {d : Nat} {c : Char} {n : Nesting} {s t : List Char}

/-- A balanced text may come first, with commas only if some bracket is open. -/
theorem prepend {g : Bool} (h : Closes ⟨none, d⟩ t) (hs : Balanced g s) (hg : g = true → 0 < d) :
    Closes ⟨none, d⟩ (s ++ t) := by
  cases h with
  | outside ht =>
    -- No bracket is open, so the text has no comma outside its own brackets.
    have hfalse : g = false := by
      cases g with
      | false => rfl
      | true => exact absurd (hg rfl) (Nat.lt_irrefl 0)
    subst hfalse
    exact .outside (hs.append ht)
  | @group d inner s' hinner hrest =>
    rw [← List.append_assoc]
    exact .group (hs.inGroup.append hinner) hrest

/-- What closes at a place where nothing is open is balanced. -/
theorem balanced (h : Closes .outside s) : Balanced false s := by
  cases h with
  | outside hs => exact hs

/-- What closes all after one more character closes all together with that character, unless the
character ends a segment. -/
theorem of_step (h : Closes (n.step c) s) (hcomma : ¬ (n.isOutside ∧ c = ','))
    (hclose : ¬ (n.isOutside ∧ c = ']')) : Closes n (c :: s) := by
  -- The cases are those of a step: what the character opens or closes is put in front of `s` again.
  obtain ⟨_ | quote, d⟩ := n
  · by_cases hquote : IsQuote c
    · rw [Nesting.step_quote hquote] at h
      cases h with
      | @quoted _ _ run t hrun ht =>
        have hbalanced : Balanced false (c :: (run ++ [c])) := Balanced.nil.quoted hquote hrun
        simpa using ht.prepend hbalanced nofun
    by_cases hopen : c = '['
    · subst hopen
      rw [Nesting.step_open] at h
      cases h with
      | @group _ inner t hinner ht =>
        have hbalanced : Balanced false ('[' :: (inner ++ [']'])) := hinner.group .nil
        simpa using ht.prepend hbalanced nofun
    by_cases hbracket : c = ']'
    · subst hbracket
      cases d with
      | zero => exact absurd ⟨rfl, rfl⟩ hclose
      | succ d =>
        rw [Nesting.step_close] at h
        exact .group .nil h
    · rw [Nesting.step_other hquote hopen hbracket] at h
      -- A comma is an ordinary character here if a bracket is open.
      cases d with
      | zero =>
        have hplain : c ≠ ',' := fun hc => hcomma ⟨rfl, hc⟩
        have hbalanced : Balanced false [c] :=
          Balanced.nil.other hquote hopen hbracket fun hc => absurd hc hplain
        exact h.prepend hbalanced nofun
      | succ d =>
        have hbalanced : Balanced true [c] := Balanced.nil.other hquote hopen hbracket fun _ => rfl
        exact h.prepend hbalanced fun _ => Nat.succ_pos d
  · by_cases hquote : c = quote
    · subst hquote
      rw [Nesting.step_unquote] at h
      exact .quoted (List.not_mem_nil) h
    · rw [Nesting.step_quoted hquote] at h
      cases h with
      | @quoted _ _ run t hrun ht =>
        rw [← List.cons_append]
        refine .quoted ?_ ht
        rw [List.mem_cons, not_or]
        exact ⟨Ne.symm hquote, hrun⟩

end Closes

namespace Segments

/-- The segments of a text that continues the first segment after `s`. -/
def prepend (s : List Char) (split : Segments) : Segments :=
  ⟨s ++ split.first, split.others, split.ending⟩

variable {s t : List Char} {split : Segments}

theorem prepend_append : split.prepend (s ++ t) = (split.prepend t).prepend s := by
  simp [prepend]

end Segments

variable {g : Bool} {d : Nat} {c quote : Char} {n : Nesting} {cs s rest run : List Char}

/-- A character that ends no segment belongs to the segment. -/
theorem segments_cons (hcomma : ¬ (n.isOutside ∧ c = ',')) (hclose : ¬ (n.isOutside ∧ c = ']')) :
    segments n (c :: cs) = (segments (n.step c) cs).prepend [c] := by
  rw [segments, if_neg (by simpa using hcomma), if_neg (by simpa using hclose)]
  rfl

theorem segments_comma : segments .outside (',' :: cs) =
    ⟨[], (segments .outside cs).first :: (segments .outside cs).others,
      (segments .outside cs).ending⟩ := rfl

theorem segments_close : segments .outside (']' :: cs) = ⟨[], [], .closed cs⟩ := rfl

/-- A quoted run belongs to its segment. -/
theorem segments_quoted (h : quote ∉ run) :
    segments ⟨some quote, d⟩ (run ++ quote :: rest) =
      (segments ⟨none, d⟩ rest).prepend (run ++ [quote]) := by
  have hinside : ¬ (⟨some quote, d⟩ : Nesting).isOutside := by simp [Nesting.isOutside]
  induction run with
  | nil =>
    rw [List.nil_append, segments_cons (hinside ·.1) (hinside ·.1), Nesting.step_unquote]
    rfl
  | cons c run ih =>
    obtain ⟨hc, hrun⟩ : c ≠ quote ∧ quote ∉ run := by simpa [eq_comm] using h
    rw [List.cons_append, segments_cons (hinside ·.1) (hinside ·.1), Nesting.step_quoted hc,
      ih hrun, ← Segments.prepend_append]
    rfl

/-- A balanced text belongs to its segment. -/
theorem Balanced.segments_append (h : Balanced g s) (hg : g = true → 0 < d) :
    segments ⟨none, d⟩ (s ++ rest) = (segments ⟨none, d⟩ rest).prepend s := by
  induction h generalizing d rest with
  | nil => rfl
  | @quoted g quote run s hquote hrun _ ih =>
    -- The opening quote, the run up to the closing one and the rest are taken one after the other.
    have hcomma : quote ≠ ',' := by rcases hquote with rfl | rfl <;> decide
    have hclose : quote ≠ ']' := by rcases hquote with rfl | rfl <;> decide
    rw [List.cons_append, segments_cons (hcomma ·.2) (hclose ·.2), Nesting.step_quote hquote,
      List.append_assoc, List.cons_append, segments_quoted hrun, ih hg, ← Segments.prepend_append,
      ← Segments.prepend_append]
    simp
  | @group g inner s _ _ ihinner ih =>
    have hinside : ¬ (⟨none, d + 1⟩ : Nesting).isOutside := by simp [Nesting.isOutside]
    have hcomma : '[' ≠ ',' := by decide
    have hclose : '[' ≠ ']' := by decide
    rw [List.cons_append, segments_cons (hcomma ·.2) (hclose ·.2), Nesting.step_open,
      List.append_assoc, List.cons_append, ihinner fun _ => Nat.succ_pos d,
      segments_cons (hinside ·.1) (hinside ·.1), Nesting.step_close, ih hg,
      ← Segments.prepend_append, ← Segments.prepend_append, ← Segments.prepend_append]
    simp
  | @other g c s hquote hopen hclose hcomma _ ih =>
    -- A comma is in a group, so some bracket is open and the comma does not separate.
    have hseparates : ¬ ((⟨none, d⟩ : Nesting).isOutside ∧ c = ',') := by
      rintro ⟨houtside, hc⟩
      have hpos := hg (hcomma hc)
      simp [Nesting.isOutside] at houtside
      omega
    rw [List.cons_append, segments_cons hseparates (hclose ·.2),
      Nesting.step_other hquote hopen hclose, ih hg, ← Segments.prepend_append]
    rfl

theorem eq_outside_of_isOutside (h : n.isOutside) : n = .outside := by
  obtain ⟨_ | quote, d⟩ := n <;> simp_all [Nesting.isOutside, Nesting.outside]

/-- The segments of a list that is closed, put together again, are the text that was split. -/
theorem eq_of_segments_closed (h : (segments n cs).ending = .closed rest) :
    cs = (segments n cs).first ++ (segments n cs).others.flatMap (',' :: ·) ++ ']' :: rest := by
  induction cs generalizing n with
  | nil =>
    -- A list that ends with the text is not closed.
    rw [segments] at h
    simp only at h
    split at h <;> contradiction
  | cons c cs ih =>
    by_cases hcomma : n.isOutside ∧ c = ','
    · obtain ⟨houtside, rfl⟩ := hcomma
      rw [eq_outside_of_isOutside houtside, segments_comma] at h ⊢
      simpa using ih h
    by_cases hclose : n.isOutside ∧ c = ']'
    · obtain ⟨houtside, rfl⟩ := hclose
      rw [eq_outside_of_isOutside houtside, segments_close] at h ⊢
      injection h with hrest
      simp [hrest]
    · rw [segments_cons hcomma hclose] at h ⊢
      simpa [Segments.prepend] using ih h

/-- In a list that is closed, the first segment closes what is open before it, and the others are
balanced. -/
theorem closes_of_segments_closed (h : (segments n cs).ending = .closed rest) :
    Closes n (segments n cs).first ∧ ∀ s ∈ (segments n cs).others, Balanced false s := by
  induction cs generalizing n with
  | nil =>
    rw [segments] at h
    simp only at h
    split at h <;> contradiction
  | cons c cs ih =>
    by_cases hcomma : n.isOutside ∧ c = ','
    · obtain ⟨houtside, rfl⟩ := hcomma
      rw [eq_outside_of_isOutside houtside, segments_comma] at h ⊢
      -- What was the first segment of the rest is now one of the others.
      obtain ⟨hfirst, hothers⟩ := ih h
      refine ⟨.outside .nil, ?_⟩
      intro s hs
      rcases List.mem_cons.mp hs with rfl | hs
      · exact hfirst.balanced
      · exact hothers s hs
    by_cases hclose : n.isOutside ∧ c = ']'
    · obtain ⟨houtside, rfl⟩ := hclose
      rw [eq_outside_of_isOutside houtside]
      exact ⟨.outside .nil, nofun⟩
    · rw [segments_cons hcomma hclose] at h ⊢
      obtain ⟨hfirst, hothers⟩ := ih h
      exact ⟨hfirst.of_step hcomma hclose, hothers⟩

/-- Balanced texts with commas between them, up to a closing bracket, are the
segments of the list. -/
theorem segments_of_balanced {first : List Char} {others : List (List Char)}
    (h : ∀ s ∈ first :: others, Balanced false s) :
    segments .outside (first ++ others.flatMap (',' :: ·) ++ ']' :: rest) =
      ⟨first, others, .closed rest⟩ := by
  have hfirst : Balanced false first := h first List.mem_cons_self
  induction others generalizing first with
  | nil =>
    rw [List.flatMap_nil, List.append_nil, Nesting.outside, hfirst.segments_append (by decide),
      ← Nesting.outside, segments_close]
    simp [Segments.prepend]
  | cons second others ih =>
    have hothers : ∀ s ∈ second :: others, Balanced false s :=
      fun s hs => h s (List.mem_cons_of_mem first hs)
    have htail := ih hothers (hothers second List.mem_cons_self)
    rw [List.flatMap_cons, List.append_assoc, Nesting.outside, hfirst.segments_append (by decide),
      ← Nesting.outside, List.append_assoc, List.cons_append, ← List.append_assoc,
      segments_comma, htail]
    simp [Segments.prepend]

/-- The segments of a list that is closed are balanced, and they are the only balanced texts that
give the list when commas are put between them. -/
theorem segments_eq_closed_iff {first : List Char} {others : List (List Char)} :
    segments .outside cs = ⟨first, others, .closed rest⟩ ↔
      (∀ s ∈ first :: others, Balanced false s) ∧
        cs = first ++ others.flatMap (',' :: ·) ++ ']' :: rest := by
  constructor
  · intro h
    have hending : (segments .outside cs).ending = .closed rest := by rw [h]
    have htext := eq_of_segments_closed hending
    obtain ⟨hfirst, hothers⟩ := closes_of_segments_closed hending
    rw [h] at htext hfirst hothers
    refine ⟨?_, htext⟩
    intro s hs
    rcases List.mem_cons.mp hs with rfl | hs
    · exact hfirst.balanced
    · exact hothers s hs
  · rintro ⟨hbalanced, rfl⟩
    exact segments_of_balanced hbalanced

end TypeExpr

end DatasetSchema
