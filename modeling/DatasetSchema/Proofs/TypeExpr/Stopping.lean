import DatasetSchema.Proofs.TypeExpr.Stage

/-!
# The place that is told of a malformed text

A text that cannot be read is refused with a place and with the character that stands there.
The place is where the text stops being an expression, and what stands before it is the
beginning of an expression.

## Main results

* `TypeExpr.readParameters_eq_error`: the segments before the place are parameters, and
  the one behind it is not;
* `TypeExpr.exists_isStop_of_read`: a text that cannot be read is told the place where it stops;
* `TypeExpr.parse_malformed_isStop`: the place that is told of a malformed text.
-/

namespace DatasetSchema.TypeExpr

variable {name before after rest source segment text : List Char} {others : List (List Char)}
  {ending : Ending} {start comma : Nat} {place : Unexpected} {parameters : List TypeParameter}
  {c : Char}

/-! ## Reading the segments -/

theorem parameter?_eq_none_iff (h : Balanced false segment) :
    parameter? start segment = none ↔ ¬ IsParameter segment := by
  rw [isParameter_iff, Option.eq_none_iff_forall_ne_some, not_exists]
  simp only [ne_eq, parameter?_eq_some_iff h, not_exists, not_and]
  constructor
  · intro hnone p hp htext
    exact hnone _ p hp htext rfl
  · intro hnone _ p hp htext
    exact absurd htext (hnone p hp)

theorem isParameter_of_parameter? {parameter : TypeParameter} (h : Balanced false segment)
    (hread : parameter? start segment = some parameter) : IsParameter segment := by
  obtain ⟨p, hp, htext, -⟩ := (parameter?_eq_some_iff h).mp hread
  exact isParameter_iff.mpr ⟨p, hp, htext⟩

/-- If the later segments cannot be read, one of them is no parameter, and all before it are. -/
theorem laterParameters_eq_error (h : ∀ segment ∈ others, Balanced false segment)
    (herror : laterParameters comma others = .error place) :
    ∃ good bad rest, others = good ++ bad :: rest ∧ (∀ segment ∈ good, IsParameter segment) ∧
      ¬ IsParameter bad ∧ place =
        ⟨comma + Text.byteLength (good.flatMap (',' :: ·)), some ','⟩ := by
  induction others generalizing comma with
  | nil => contradiction
  | cons segment others ih =>
    obtain ⟨hsegment, hothers⟩ := List.forall_mem_cons.mp h
    rw [laterParameters] at herror
    split at herror
    · next hnone =>
      have hbad := (parameter?_eq_none_iff hsegment).mp hnone
      exact ⟨[], segment, others, rfl, List.forall_mem_nil _, hbad, (Except.error.inj herror).symm⟩
    · next parameter hparameter =>
      have hgood := isParameter_of_parameter? hsegment hparameter
      rcases bind_eq_error_iff.mp herror with hlater | ⟨_, -, hlater⟩
      · obtain ⟨good, bad, rest, rfl, hparameters, hbad, rfl⟩ := ih hothers hlater
        refine ⟨segment :: good, bad, rest, rfl,
          List.forall_mem_cons.mpr ⟨hgood, hparameters⟩, hbad, ?_⟩
        have hcomma : ','.utf8Size = 1 := rfl
        simp only [List.flatMap_cons, Text.byteLength_append, Text.byteLength_cons, hcomma]
        congr 1
        omega
      · contradiction

theorem isParameter_of_laterParameters (h : ∀ segment ∈ others, Balanced false segment)
    (hok : laterParameters comma others = .ok parameters) :
    ∀ segment ∈ others, IsParameter segment := by
  obtain ⟨ps, hps, rfl, -⟩ := (laterParameters_eq_ok_iff h).mp hok
  rw [List.forall_mem_map]
  exact fun p hp => isParameter_iff.mpr ⟨p, hps p hp, rfl⟩

theorem wholeSegments_cons (first : List Char) (h : others = [] → ending ≠ .unfinished) :
    wholeSegments (first :: others) ending =
      first :: if ending = .unfinished then others.dropLast else others := by
  by_cases hending : ending = .unfinished
  · have hne : others ≠ [] := fun hnil => h hnil hending
    rw [wholeSegments, if_pos hending, if_pos hending, List.dropLast_cons_of_ne_nil hne]
  · rw [wholeSegments, if_neg hending, if_neg hending]

section ReadParameters

variable {split : Segments}
  (hbalanced : ∀ segment ∈ wholeSegments split.all split.ending, Balanced false segment)
include hbalanced

/-- If the segments cannot be read, one of them is no parameter, and all before it are. The start of
the first segment is told, or the comma before another one. -/
theorem readParameters_eq_error (herror : readParameters start split text = .error place) :
    split.all ≠ [[]] ∧
      ∃ good bad rest, wholeSegments split.all split.ending = good ++ bad :: rest ∧
        (∀ segment ∈ good, IsParameter segment) ∧ ¬ IsParameter bad ∧
        (good = [] ∧ place = ⟨start, text.head?⟩ ∨
          good ≠ [] ∧ place = ⟨start + Text.byteLength ([','].intercalate good), some ','⟩) := by
  obtain ⟨first, others, ending⟩ := split
  rw [readParameters] at herror
  split at herror
  · contradiction
  · next hopen =>
    have hwhole := wholeSegments_cons first hopen
    rw [Segments.all] at hbalanced ⊢
    rw [hwhole] at hbalanced ⊢
    obtain ⟨hfirst, hothers⟩ := List.forall_mem_cons.mp hbalanced
    split at herror
    · contradiction
    · next hsome =>
      refine ⟨?_, ?_⟩
      · rintro ⟨⟩
        exact hsome rfl
      split at herror
      · next hnone =>
        have hbad := (parameter?_eq_none_iff hfirst).mp hnone
        exact ⟨[], first, _, rfl, List.forall_mem_nil _, hbad,
          .inl ⟨rfl, (Except.error.inj herror).symm⟩⟩
      · next parameter hparameter =>
        have hgood := isParameter_of_parameter? hfirst hparameter
        rcases bind_eq_error_iff.mp herror with hlater | ⟨_, -, hlater⟩
        · obtain ⟨good, bad, rest, heq, hparameters, hbad, rfl⟩ :=
            laterParameters_eq_error hothers hlater
          refine ⟨first :: good, bad, rest, congrArg (first :: ·) heq,
            List.forall_mem_cons.mpr ⟨hgood, hparameters⟩, hbad, .inr ⟨List.cons_ne_nil _ _, ?_⟩⟩
          rw [intercalate_cons_eq_flatMap, Text.byteLength_append, Nat.add_assoc]
          rfl
        · contradiction

/-- If the segments are read, all that are whole are parameters, or the list is empty. -/
theorem isParameter_of_readParameters (hok : readParameters start split text = .ok parameters) :
    split.all = [[]] ∨ ∀ segment ∈ wholeSegments split.all split.ending, IsParameter segment := by
  obtain ⟨first, others, ending⟩ := split
  rw [readParameters] at hok
  split at hok
  · next hnil hunfinished =>
    obtain rfl : others = [] := hnil
    obtain rfl : ending = .unfinished := hunfinished
    exact .inr (List.forall_mem_nil _)
  · next hopen =>
    have hwhole := wholeSegments_cons first hopen
    rw [Segments.all] at hbalanced ⊢
    rw [hwhole] at hbalanced ⊢
    obtain ⟨hfirst, hothers⟩ := List.forall_mem_cons.mp hbalanced
    split at hok
    · next hempty =>
      left
      simpa using hempty
    · right
      split at hok
      · contradiction
      · next parameter hparameter =>
        have hgood := isParameter_of_parameter? hfirst hparameter
        obtain ⟨_, hlater, -⟩ := bind_eq_ok_iff.mp hok
        exact List.forall_mem_cons.mpr ⟨hgood, isParameter_of_laterParameters hothers hlater⟩

end ReadParameters

/-! ## Reading an expression -/

theorem read_other (hname : IsName name) (hc : isNameChar c = false) (hopen : c ≠ '[') :
    read start (name ++ c :: rest) = .error ⟨start + Text.byteLength name, some c⟩ := by
  obtain ⟨d, ds, hcons⟩ := List.exists_cons_of_ne_nil hname.1
  rw [read, hname.takeWhile_append (isNameChar_head?_cons hc),
    hname.dropWhile_append (isNameChar_head?_cons hc), hcons]
  split
  · contradiction
  · contradiction
  · next heq _ => exact absurd (List.cons.inj heq).1 hopen
  · next heq _ => rw [(List.cons.inj heq).1]

/-- A name with a bracket behind it that cannot be read stops where it is told. -/
theorem exists_isStop_of_read_bracket (hname : IsName name)
    (h : read start (name ++ '[' :: text) = .error place) :
    ∃ before after, IsStop (name ++ '[' :: text) before after ∧
      place = ⟨start + Text.byteLength before, after.head?⟩ := by
  obtain ⟨c, cs, hcons⟩ := List.exists_cons_of_ne_nil hname.1
  have hbracket : '['.utf8Size = 1 := rfl
  have hsplit := isSplit_segments text
  rw [read, hname.takeWhile_append isNameChar_head?_bracket,
    hname.dropWhile_append isNameChar_head?_bracket] at h
  simp only [hcons] at h
  rw [← hcons] at h
  rcases bind_eq_error_iff.mp h with herror | ⟨parameters, hok, hend⟩
  · obtain ⟨hall, good, bad, more, hwhole, hgood, hbad, hplace⟩ :=
      readParameters_eq_error hsplit.balanced herror
    obtain ⟨after, hstop, htext, hcomma⟩ := exists_isStop_of_bad hname hsplit hall hwhole hgood hbad
    refine ⟨_, after, hstop, ?_⟩
    rcases hplace with ⟨rfl, rfl⟩ | ⟨hne, rfl⟩
    · obtain rfl : text = after := by simpa using htext
      simp [hbracket, Nat.add_assoc]
    · rw [hcomma hne]
      simp [hbracket, Nat.add_assoc]
  · have hgood := isParameter_of_readParameters hsplit.balanced hok
    split at hend
    · contradiction
    · next c cs hclosed =>
      have hstop :=
        isStop_of_closed hname hsplit hclosed (by simpa [wholeSegments, hclosed] using hgood)
      refine ⟨_, _, hstop, ?_⟩
      -- The rest is as long as the text without what stands before it.
      rw [← Except.error.inj hend, hstop.text, Text.byteLength_append]
      simp only [List.head?_cons, Unexpected.mk.injEq, and_true]
      omega
    · next hopen hopen' =>
      have hending : ∀ rest, (segments .outside text).ending ≠ .closed rest := by
        rintro (_ | ⟨c, cs⟩) hclosed
        · exact hopen hclosed
        · exact hopen' c cs hclosed
      exact ⟨_, _, isStop_of_open hname hsplit hending hgood, (Except.error.inj hend).symm⟩

/-- A text that cannot be read stops being an expression at the place that is told. -/
theorem exists_isStop_of_read (h : read start source = .error place) :
    ∃ before after, IsStop source before after ∧
      place = ⟨start + Text.byteLength before, after.head?⟩ := by
  have hsource : source.takeWhile isNameChar ++ source.dropWhile isNameChar = source :=
    List.takeWhile_append_dropWhile
  by_cases hnil : source.takeWhile isNameChar = []
  · rw [hnil, List.nil_append] at hsource
    rw [read, hnil, hsource] at h
    exact ⟨[], source, isStop_of_no_name hnil, (Except.error.inj h).symm⟩
  have hname : IsName (source.takeWhile isNameChar) := .takeWhile hnil
  have hafter := List.head?_dropWhile_not isNameChar source
  cases hrest : source.dropWhile isNameChar with
  | nil =>
    -- A name alone is read.
    rw [hrest, List.append_nil] at hsource
    rw [← hsource, read_name hname] at h
    contradiction
  | cons c rest =>
    rw [hrest] at hafter hsource
    by_cases hopen : c = '['
    · subst hopen
      rw [← hsource] at h ⊢
      exact exists_isStop_of_read_bracket hname h
    · rw [← hsource] at h ⊢
      rw [read_other hname hafter hopen] at h
      exact ⟨_, _, isStop_of_name hname hafter hopen, (Except.error.inj h).symm⟩

/-! ## Malformed texts -/

/-- What stands before the place where a text stops can be completed to a text that is accepted. -/
theorem IsStop.exists_parse (hstop : IsStop source before after)
    (hdepth : nestingDepth source ≤ maxNesting) :
    ∃ rest expr, parse 0 (before ++ rest) = .ok expr := by
  obtain ⟨rest, hexpression, hrest⟩ := hstop.exists_expression
  obtain ⟨shape, hshape, htext⟩ := isExpression_iff.mp hexpression
  refine ⟨rest, shape.place 0, parse_eq_ok_iff.mpr ⟨hrest.trans hdepth, ?_⟩⟩
  exact read_eq_ok_iff.mpr ⟨shape, hshape, htext, rfl⟩

/-- A text that is refused as malformed, and not for its nesting, stops being an expression at
the place that is told. The place counts the bytes of what stands before it, and this can be
completed to an expression. -/
theorem parse_malformed_isStop {text : String}
    (h : parse 0 source = .error (.malformed text place)) :
    ∃ before after, IsStop source before after ∧ place = ⟨Text.byteLength before, after.head?⟩ ∧
      ∃ rest expr, parse 0 (before ++ rest) = .ok expr := by
  rcases parse_eq_error_iff.mp h with ⟨offset, -, hfault⟩ | ⟨hdepth, place', hread, hfault⟩
  · contradiction
  · obtain ⟨-, rfl⟩ := Fault.malformed.inj hfault
    obtain ⟨before, after, hstop, hplace⟩ := exists_isStop_of_read hread
    rw [Nat.zero_add] at hplace
    exact ⟨before, after, hstop, hplace, hstop.exists_parse hdepth⟩

/-- The second parameter has a key and no value, and so the comma before it is told, after ten
characters that take twelve bytes. The quote that is left open later does not matter. -/
theorem isStop_missingValue :
    parse 0 "List[Größe,x=,\"".toList = .error (.malformed "List[Größe,x=,\"" ⟨12, some ','⟩) ∧
      ∃ before after, IsStop "List[Größe,x=,\"".toList before after ∧
        ⟨12, some ','⟩ = (⟨Text.byteLength before, after.head?⟩ : Unexpected) ∧
        ∃ rest expr, parse 0 (before ++ rest) = .ok expr := by
  have hparse : parse 0 "List[Größe,x=,\"".toList =
      .error (.malformed "List[Größe,x=,\"" ⟨12, some ','⟩) := by decide +kernel
  exact ⟨hparse, parse_malformed_isStop hparse⟩

end DatasetSchema.TypeExpr
