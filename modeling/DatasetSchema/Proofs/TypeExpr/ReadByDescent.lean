import DatasetSchema.Proofs.TypeExpr.Descent

/-!
# Reading by descent is reading

The calls for brackets come back with the rest of the text, and the segments of a parameter list are
what they leave between commas. So the parameters are those that `TypeExpr.read` finds in the
segments, and what is unexpected is at the same place.

## Main results

* `TypeExpr.Descent.parameter_append`, `TypeExpr.Descent.parameter_brokenOff`: a segment is read by
  descent as a parameter;
* `TypeExpr.Descent.parameters_eq`: a list of parameters is read segment by segment;
* `TypeExpr.Descent.expression_eq_read`: an expression is read by descent as without, if the limit
  allows as many brackets as the text nests deep.
-/

namespace DatasetSchema.TypeExpr.Descent

variable {limit : Option Nat} {start finish comma : Nat} {g : Bool}
  {s rest key name after text source : List Char} {all : List (List Char)} {ending : Ending}

/-! ## Parameters -/

theorem consumed_append : consumed (s ++ rest) rest = s := by
  rw [consumed, List.length_append, Nat.add_sub_cancel, List.take_left]

/-- A segment that is not empty is a value. -/
theorem value_append (hs : Balanced false s) (hrest : EndsSegment rest)
    (hallows : Allows limit (1 + nestingDepth s)) :
    value limit finish start (s ++ rest) =
      .ok (if s = [] then none else some (piece start s, rest)) := by
  rw [value, hs.items_append hallows, items_endsSegment hrest]
  show Except.ok (if (consumed (s ++ rest) rest).isEmpty then none
    else some (piece start (consumed (s ++ rest) rest), rest)) = _
  rw [consumed_append]
  cases s <;> rfl

theorem parameter_key (h : IsName key) :
    parameter limit finish start (key ++ '=' :: text) = (do
      let found ← value limit finish (start + Text.byteLength key + 1) text
      return found.map (placed start (key ++ '=' :: text) (some (piece start key)))) := by
  obtain ⟨c, cs, hcons⟩ := List.exists_cons_of_ne_nil h.1
  rw [parameter, h.takeWhile_append isNameChar_head?_equals,
    h.dropWhile_append isNameChar_head?_equals, hcons]
  rfl

theorem parameter_bare (h : ¬ StartsWithKey s) :
    parameter limit finish start s = (do
      let found ← value limit finish start s
      return found.map (placed start s none)) := by
  rw [parameter]
  split
  -- The text is split only if a name stands before a `=`.
  · next c cs text hname hrest =>
    refine absurd ⟨s.takeWhile isNameChar, text, .takeWhile ?_, ?_⟩ h
    · rw [hname]
      exact List.cons_ne_nil c cs
    · rw [← hrest, List.takeWhile_append_dropWhile]
  · rfl

/-- What follows a segment makes no key of it. -/
theorem startsWithKey_of_append (hrest : EndsSegment rest) (h : StartsWithKey (s ++ rest)) :
    StartsWithKey s := by
  obtain ⟨key, text, hkey, heq⟩ := h
  rcases List.append_eq_append_iff.mp heq with
    ⟨_ | ⟨c, part⟩, rfl, rfl⟩ | ⟨_ | ⟨c, part⟩, rfl, htail⟩
  · exact absurd (hrest '=' rfl) (by decide)
  · -- The rest of a key begins with a character of a name, which ends no segment.
    obtain ⟨⟨-, -, hclose, hcomma⟩, -⟩ := plain_of_isNameChar (hkey.2 c (by simp))
    exact absurd (hrest c rfl) (not_or.mpr ⟨hcomma, hclose⟩)
  · subst htail
    exact absurd (hrest '=' rfl) (by decide)
  · obtain ⟨rfl, -⟩ := List.cons.inj htail
    exact ⟨key, part, hkey, rfl⟩

/-- A segment is read as a parameter if it is one. -/
theorem parameter_append (hs : Balanced false s) (hrest : EndsSegment rest)
    (hallows : Allows limit (1 + nestingDepth s)) :
    parameter limit finish start (s ++ rest) = .ok ((parameter? start s).map (·, rest)) := by
  by_cases hkey : StartsWithKey s
  · obtain ⟨key, text, hname, rfl⟩ := hkey
    have htext := balanced_value_of_key hname hs
    rw [nestingDepth_key_append hname] at hallows
    have hconsumed : consumed (key ++ '=' :: (text ++ rest)) rest = key ++ '=' :: text := by
      rw [← List.cons_append, ← List.append_assoc, consumed_append]
    rw [List.append_assoc, List.cons_append, parameter_key hname, value_append htext hrest hallows,
      parameter?_key hname]
    by_cases hnil : text = []
    · rw [if_pos hnil, if_pos hnil]
      rfl
    · rw [if_neg hnil, if_neg hnil]
      show Except.ok (some (placed _ _ _ _)) = _
      rw [placed, hconsumed]
      rfl
  · -- A key does not reach into what follows the segment.
    have hkey' : ¬ StartsWithKey (s ++ rest) := fun h => hkey (startsWithKey_of_append hrest h)
    rw [parameter_bare hkey', value_append hs hrest hallows, parameter?_bare hkey]
    by_cases hnil : s = []
    · rw [if_pos hnil, if_pos hnil]
      rfl
    · rw [if_neg hnil, if_neg hnil]
      show Except.ok (some (placed _ _ _ _)) = _
      rw [placed, consumed_append]
      rfl

/-- Inside a run or a group that is not closed, a parameter comes to the end of the text. -/
theorem parameter_brokenOff (hs : BrokenOff false s)
    (hallows : Allows limit ((⟨none, 1⟩ : Nesting).peak s)) :
    parameter limit finish start s = .error (unexpectedAt finish []) := by
  have hitems : items limit finish false 1 s = .error (unexpectedAt finish []) :=
    hs.items_eq hallows
  by_cases hkey : StartsWithKey s
  · obtain ⟨key, text, hname, rfl⟩ := hkey
    -- The key is made of items too, so the items of the text are those of its value.
    have hbefore : Balanced false (key ++ ['=']) := by
      refine (balanced_of_isName hname).append (.other ?_ ?_ ?_ ?_ .nil) <;> decide
    have hallows' : Allows limit (1 + nestingDepth (key ++ ['='])) := by
      rw [nestingDepth_key_append hname]
      exact hallows.mono (Nesting.depth_le_peak ⟨none, 1⟩ _)
    have happend : items limit finish false 1 (key ++ ['='] ++ text) =
        items limit finish false 1 text :=
      hbefore.items_append hallows'
    rw [List.append_assoc, List.singleton_append, hitems] at happend
    rw [parameter_key hname, value, ← happend]
    rfl
  · rw [parameter_bare hkey, value, hitems]
    rfl

/-! ## Lists of parameters -/

/-- What is read of a list and what follows it, which has to be closed. -/
def withRest (finish : Nat) (ending : Ending) (list : Except Unexpected (List TypeParameter)) :
    Except Refusal (List TypeParameter × List Char) := do
  let list ← list.mapError .unexpected
  match ending with
  | .closed behind => return (list, behind)
  | _ => .error (unexpectedAt finish [])

theorem withRest_cons {first : TypeParameter} {list : Except Unexpected (List TypeParameter)} :
    (do
      let found ← withRest finish ending list
      return (first :: found.1, found.2)) =
    withRest finish ending (do
      let others ← list
      return first :: others) := by
  cases list with
  | error place => rfl
  | ok others => cases ending <;> rfl

theorem stop_span_of_parameter? {found : TypeParameter} (hs : Balanced false s)
    (h : parameter? start s = some found) : found.span.stop = start + Text.byteLength s := by
  obtain ⟨p, -, rfl, rfl⟩ := (parameter?_eq_some_iff hs).mp h
  rfl

/-- A segment after a comma is read as it is without calls, if what follows it is. -/
theorem afterParameter_comma {segments : List (List Char)} (hs : Balanced false s)
    (hrest : EndsSegment rest) (hallows : Allows limit (1 + nestingDepth s))
    (hfinish : finish = comma + Text.byteLength (',' :: (s ++ rest)))
    (hnext : afterParameter limit finish (comma + 1 + Text.byteLength s) rest =
      withRest finish ending (laterParameters (comma + 1 + Text.byteLength s) segments)) :
    afterParameter limit finish comma (',' :: (s ++ rest)) =
      withRest finish ending (laterParameters comma (s :: segments)) := by
  have hread : parameter limit finish (comma + 1) (s ++ rest) =
      .ok ((parameter? (comma + 1) s).map (·, rest)) := parameter_append hs hrest hallows
  -- The segment is balanced, so reading it does not fail: it is a parameter or it is none.
  rw [afterParameter, laterParameters]
  split
  · next h =>
    rw [hread] at h
    contradiction
  · next h =>
    rw [hread, Except.ok.injEq, Option.map_eq_none_iff] at h
    have hcomma : finish - Text.byteLength (',' :: (s ++ rest)) = comma := by omega
    have hclosing : closing finish (',' :: (s ++ rest)) =
        .error (unexpectedAt finish (',' :: (s ++ rest))) := rfl
    rw [h, hclosing, unexpectedAt, hcomma]
    rfl
  · next found behind h =>
    rw [hread, Except.ok.injEq, Option.map_eq_some_iff] at h
    obtain ⟨found, hfound, heq⟩ := h
    obtain ⟨rfl, rfl⟩ := Prod.mk.inj heq
    rw [hfound, stop_span_of_parameter? hs hfound, hnext]
    exact withRest_cons

theorem afterParameter_nil :
    afterParameter limit finish start [] =
      withRest finish .unclosed (laterParameters start []) := by
  rw [afterParameter]
  · rfl
  · simp

theorem afterParameter_close :
    afterParameter limit finish start (']' :: after) =
      withRest finish (.closed after) (laterParameters start []) := by
  rw [afterParameter]
  · rfl
  · simp

/-- The segments after a comma are read one after the other. If the text is broken off in one of
them, its end is unexpected. -/
theorem afterParameter_eq (h : IsSplit text all ending)
    (hallows : Allows limit ((⟨none, 1⟩ : Nesting).peak text))
    (hfinish : finish = comma + Text.byteLength (',' :: text)) :
    afterParameter limit finish comma (',' :: text) =
      withRest finish ending (laterParameters comma (wholeSegments all ending)) := by
  -- The induction is on the split: a segment is the last one, or a comma and others follow.
  induction h generalizing comma with
  | @unclosed s hs =>
    rw [← List.append_nil s] at hfinish
    rw [hs.peak_eq] at hallows
    simpa [wholeSegments] using afterParameter_comma hs endsSegment_nil hallows hfinish
      afterParameter_nil
  | @unfinished s hs =>
    have hread : parameter limit finish (comma + 1) s = .error (unexpectedAt finish []) :=
      parameter_brokenOff hs hallows
    rw [afterParameter]
    split
    · next h =>
      rw [hread] at h
      rw [← Except.error.inj h]
      rfl
    · next h =>
      rw [hread] at h
      contradiction
    · next h =>
      rw [hread] at h
      contradiction
  | @closed s rest hs =>
    rw [hs.peak_append] at hallows
    simpa [wholeSegments] using
      afterParameter_comma hs endsSegment_close
        (hallows.mono (le_max_left _ _)) hfinish afterParameter_close
  | @comma s text all ending hs hrest ih =>
    rw [hs.peak_append, Nesting.peak] at hallows
    -- The end stays where it is while the place goes on to the next comma.
    have hlater : finish = comma + 1 + Text.byteLength s + Text.byteLength (',' :: text) := by
      have hcomma : ','.utf8Size = 1 := rfl
      simp only [Text.byteLength_cons, Text.byteLength_append, hcomma] at hfinish ⊢
      omega
    have hwhole : wholeSegments (s :: all) ending = s :: wholeSegments all ending :=
      wholeSegments_cons s fun hnil => absurd hnil hrest.ne_nil
    rw [hwhole]
    have hnext := ih (hallows.mono ((le_max_right _ _).trans (le_max_right _ _))) hlater
    exact afterParameter_comma hs endsSegment_comma (hallows.mono (le_max_left _ _)) hfinish hnext

/-- Without a parameter, a list that does not end at once is unexpected. -/
theorem closing_eq (h : text.head? ≠ some ']') (hfinish : finish = start + Text.byteLength text) :
    closing finish text = .error (.unexpected ⟨start, text.head?⟩) := by
  have hstart : finish - Text.byteLength text = start := by omega
  rw [closing, unexpectedAt, hstart]
  rintro behind rfl
  exact h rfl

/-- A balanced text does not begin with a closing bracket. -/
theorem head?_ne_close (hs : Balanced g s) : s.head? ≠ some ']' := by
  rintro h
  cases hs with
  | nil => contradiction
  | quoted hquote =>
    obtain rfl := Option.some.inj h
    exact absurd hquote (by decide)
  | group => exact absurd (Option.some.inj h) (by decide)
  | other _ _ hclose => exact hclose (Option.some.inj h)

/-- A first segment is read as it is without calls, if what follows it is and the list
does not end at once. -/
theorem parameters_segment {others : List (List Char)} (hs : Balanced false s)
    (hrest : EndsSegment rest) (hallows : Allows limit (1 + nestingDepth s))
    (hfinish : finish = start + Text.byteLength (s ++ rest)) (hsome : ¬ (s = [] ∧ others = []))
    (hhead : (s ++ rest).head? ≠ some ']')
    (hopen : others = [] → ending ≠ .unfinished)
    (hnext : afterParameter limit finish (start + Text.byteLength s) rest =
      withRest finish ending (laterParameters (start + Text.byteLength s)
        (if ending = .unfinished then others.dropLast else others))) :
    parameters limit finish start (s ++ rest) =
      withRest finish ending (readParameters start ⟨s, others, ending⟩ (s ++ rest)) := by
  have hread : parameter limit finish start (s ++ rest) =
      .ok ((parameter? start s).map (·, rest)) :=
    parameter_append hs hrest hallows
  have hempty : ¬ (s.isEmpty && others.isEmpty) = true := by simpa using hsome
  rw [parameters, hread, readParameters]
  -- The first case of `readParameters` is a text that ends inside its only segment.
  split
  · next hothers hending => exact absurd hending (hopen hothers)
  · rw [if_neg hempty]
    cases hfound : parameter? start s with
    | none => exact closing_eq hhead hfinish
    | some found =>
      show afterParameter limit finish found.span.stop rest >>= _ = _
      rw [stop_span_of_parameter? hs hfound, hnext]
      exact withRest_cons

/-- Without a parameter at its start the list ends there. -/
theorem parameters_empty (hrest : EndsSegment rest) (hallows : Allows limit 1) :
    parameters limit finish start rest = closing finish rest := by
  have hread : parameter limit finish start ([] ++ rest) =
      .ok ((parameter? start []).map (·, rest)) :=
    parameter_append .nil hrest hallows
  rw [List.nil_append] at hread
  rw [parameters, hread]
  rfl

/-- A list of parameters is read as it is without calls. -/
theorem parameters_eq {split : Segments} (h : IsSplit text split.all split.ending)
    (hallows : Allows limit ((⟨none, 1⟩ : Nesting).peak text))
    (hfinish : finish = start + Text.byteLength text) :
    parameters limit finish start text =
      withRest finish split.ending (readParameters start split text) := by
  obtain ⟨first, others, ending⟩ := split
  simp only [Segments.all] at h
  have hallows' : Allows limit 1 := hallows.mono (Nesting.depth_le_peak ⟨none, 1⟩ text)
  -- An only segment that is empty is no parameter: then the list is empty and has to end at once.
  cases h with
  | unclosed hs =>
    by_cases hnil : text = []
    · subst hnil
      exact parameters_empty endsSegment_nil hallows'
    · rw [hs.peak_eq] at hallows
      rw [← List.append_nil text] at hfinish
      have hhead : (text ++ []).head? ≠ some ']' := by simpa using head?_ne_close hs
      have hread : parameters limit finish start (text ++ []) =
          withRest finish .unclosed (readParameters start ⟨text, [], .unclosed⟩ (text ++ [])) :=
        parameters_segment hs endsSegment_nil hallows hfinish (hnil ·.1) hhead
          (by simp) afterParameter_nil
      rwa [List.append_nil] at hread
  | unfinished hs =>
    rw [parameters, parameter_brokenOff hs hallows]
    rfl
  | @closed s rest hs =>
    by_cases hnil : first = []
    · subst hnil
      exact parameters_empty endsSegment_close hallows'
    · rw [hs.peak_append] at hallows
      have hhead : (first ++ ']' :: rest).head? ≠ some ']' := by
        rw [List.head?_append_of_ne_nil _ hnil]
        exact head?_ne_close hs
      exact parameters_segment hs endsSegment_close (hallows.mono (le_max_left _ _)) hfinish
        (hnil ·.1) hhead (by simp) afterParameter_close
  | @comma s text all ending hs hrest =>
    have hne : others ≠ [] := hrest.ne_nil
    rw [hs.peak_append, Nesting.peak] at hallows
    have hhead : (first ++ ',' :: text).head? ≠ some ']' := by
      cases first with
      | nil => simp
      | cons c first =>
        show some c ≠ some ']'
        exact head?_ne_close hs
    have hlater : finish = start + Text.byteLength first + Text.byteLength (',' :: text) := by
      rw [hfinish, Text.byteLength_append, Nat.add_assoc]
    have hnext :=
      afterParameter_eq hrest (hallows.mono ((le_max_right _ _).trans (le_max_right _ _))) hlater
    exact parameters_segment hs endsSegment_comma (hallows.mono (le_max_left _ _)) hfinish
      (hne ·.2) hhead (fun hnil => absurd hnil hne) hnext

/-! ## Expressions -/

/-- The brackets of an expression are read as they are without calls. -/
theorem expression_bracket_eq (hname : IsName name)
    (hallows : Allows limit (nestingDepth (name ++ '[' :: text))) :
    expression limit start (name ++ '[' :: text) =
      (read start (name ++ '[' :: text)).mapError .unexpected := by
  obtain ⟨c, cs, hcons⟩ := List.exists_cons_of_ne_nil hname.1
  rw [nestingDepth_name_bracket hname] at hallows
  have hopen : mayOpen limit 0 :=
    (hallows.mono (Nesting.depth_le_peak ⟨none, 1⟩ text)).mayOpen Nat.zero_lt_one
  have hfinish : start + Text.byteLength (name ++ '[' :: text) =
      start + Text.byteLength name + 1 + Text.byteLength text := by
    have hbracket : '['.utf8Size = 1 := rfl
    simp only [Text.byteLength_append, Text.byteLength_cons, hbracket]
    omega
  have hlist := parameters_eq (isSplit_segments text) hallows hfinish
  rw [expression, read, hname.takeWhile_append isNameChar_head?_bracket,
    hname.dropWhile_append isNameChar_head?_bracket]
  simp only [hcons]
  rw [← hcons, if_pos hopen, hlist]
  -- Both then ask for the end of the text behind the closing bracket.
  cases readParameters (start + Text.byteLength name + 1) (segments .outside text) text with
  | error place => rfl
  | ok list =>
    cases (segments .outside text).ending with
    | closed behind => cases behind <;> rfl
    | unclosed => rfl
    | unfinished => rfl

/-- A name with something else than brackets behind it stops there. -/
theorem expression_other {c : Char} (hname : IsName name) (hc : isNameChar c = false)
    (hopen : c ≠ '[') :
    expression limit start (name ++ c :: rest) =
      .error (.unexpected ⟨start + Text.byteLength name, some c⟩) := by
  obtain ⟨d, ds, hcons⟩ := List.exists_cons_of_ne_nil hname.1
  have hplace : unexpectedAt (start + Text.byteLength (name ++ c :: rest)) (c :: rest) =
      .unexpected ⟨start + Text.byteLength name, some c⟩ := by
    rw [unexpectedAt, Text.byteLength_append, ← Nat.add_assoc, Nat.add_sub_cancel]
    rfl
  rw [← hplace, expression, hname.takeWhile_append (isNameChar_head?_cons hc),
    hname.dropWhile_append (isNameChar_head?_cons hc)]
  simp only [hcons]
  split
  · contradiction
  · contradiction
  · next heq _ => exact absurd (List.cons.inj heq).1 hopen
  · rfl

/-- A text that does not nest deeper than the limit is read as it is without calls. -/
theorem expression_eq_read (hallows : Allows limit (nestingDepth source)) :
    expression limit start source = (read start source).mapError .unexpected := by
  have hsource : source.takeWhile isNameChar ++ source.dropWhile isNameChar = source :=
    List.takeWhile_append_dropWhile
  by_cases hnil : source.takeWhile isNameChar = []
  · have hplace : unexpectedAt (start + Text.byteLength source) source =
        .unexpected ⟨start, source.head?⟩ := by
      rw [unexpectedAt, Nat.add_sub_cancel]
    rw [hnil, List.nil_append] at hsource
    rw [expression, read, hnil, hsource]
    exact congrArg Except.error hplace
  have hname : IsName (source.takeWhile isNameChar) := .takeWhile hnil
  have hafter := List.head?_dropWhile_not isNameChar source
  cases hrest : source.dropWhile isNameChar with
  | nil =>
    obtain ⟨c, cs, hcons⟩ := List.exists_cons_of_ne_nil hnil
    rw [expression, read, hrest, hcons]
    rfl
  | cons c rest =>
    rw [hrest] at hafter hsource
    by_cases hopen : c = '['
    · subst hopen
      rw [← hsource] at hallows ⊢
      exact expression_bracket_eq hname hallows
    · rw [← hsource, read_other hname hafter hopen, expression_other hname hafter hopen]
      rfl

end DatasetSchema.TypeExpr.Descent
