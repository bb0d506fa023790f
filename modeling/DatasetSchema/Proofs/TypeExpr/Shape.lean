import DatasetSchema.Proofs.Attempt
import DatasetSchema.Proofs.Identifier
import DatasetSchema.Proofs.TypeExpr.Segments
import DatasetSchema.TypeExpr.Parse

/-!
# The shape of a type expression

A shape is a type expression without the places of its parts: a name and, if brackets are written,
the parameters between them. A text is read as an expression exactly if it is the text of a
well-formed shape, and the expression is that shape with the places that its parts have in the text.

## Main definitions

* `TypeExpr.ParameterShape`, `TypeExpr.Shape`: parameters and expressions without places;
* `TypeExpr.Shape.WellFormed`: the grammar of type expressions.

## Main results

* `TypeExpr.read_eq_ok_iff`: reading finds the shape of a text and the places of its parts;
* `TypeExpr.parse_eq_ok_iff`, `TypeExpr.parse_eq_error_iff`: what comes of a text
  that is scanned and read.
-/

namespace DatasetSchema.TypeExpr

/-! ## Parameters -/

/-- A parameter without its place in a text. -/
structure ParameterShape where
  /-- The name before the `=`, if one is written. -/
  key : Option (List Char)
  /-- The text of the value. -/
  value : List Char

/-- The text starts with a name directly before a `=`. -/
def StartsWithKey (s : List Char) : Prop :=
  ∃ key value, IsName key ∧ s = key ++ '=' :: value

namespace ParameterShape

/-- The parameter as it is written. -/
def text : ParameterShape → List Char
  | ⟨none, value⟩ => value
  | ⟨some key, value⟩ => key ++ '=' :: value

/-- The position of the value of a parameter that begins at `start`. -/
def valueStart (start : Nat) (p : ParameterShape) : Nat :=
  match p.key with
  | none => start
  | some key => start + Text.byteLength key + 1

/-- The parameter at a place of a text. -/
def place (start : Nat) (p : ParameterShape) : TypeParameter :=
  { key := p.key.map (piece start)
    value := piece (p.valueStart start) p.value
    span := Span.ofLength start (Text.byteLength p.text) }

/-- A parameter of the grammar. A value without a key must not be mistaken for one with a key. -/
structure WellFormed (p : ParameterShape) : Prop where
  isName_key : ∀ key ∈ p.key, IsName key
  not_startsWithKey : p.key = none → ¬ StartsWithKey p.value
  value_ne_nil : p.value ≠ []
  balanced_value : Balanced false p.value

end ParameterShape

/-- A name has no quotes, brackets, commas and equals signs. -/
theorem plain_of_isNameChar {c : Char} (h : isNameChar c) :
    (¬ IsQuote c ∧ c ≠ '[' ∧ c ≠ ']' ∧ c ≠ ',') ∧ c ≠ '=' := by
  have hne : ∀ d ∈ ['"', '\'', '[', ']', ',', '=', '(', ')', ' ', '\n'], c ≠ d := by
    rintro d hd rfl
    rw [isNameChar_punctuation hd] at h
    contradiction
  refine ⟨⟨?_, hne _ (by decide), hne _ (by decide), hne _ (by decide)⟩, hne _ (by decide)⟩
  rintro (hquote | hquote)
  · exact hne '"' (by decide) hquote
  · exact hne '\'' (by decide) hquote

theorem balanced_of_isName {g : Bool} {name : List Char} (h : IsName name) : Balanced g name :=
  .of_plain fun c hc => (plain_of_isNameChar (h.2 c hc)).1

theorem isNameChar_head?_equals {value : List Char} :
    ∀ c ∈ ('=' :: value).head?, isNameChar c = false :=
  isNameChar_head?_cons (isNameChar_punctuation (by decide))

variable {start : Nat} {key value segment : List Char}

/-- A name before a `=` is a key. -/
theorem parameter?_key (h : IsName key) :
    parameter? start (key ++ '=' :: value) =
      if value = [] then none else some (ParameterShape.place start ⟨some key, value⟩) := by
  obtain ⟨c, cs, hkey⟩ := List.exists_cons_of_ne_nil h.1
  rw [parameter?, h.takeWhile_append isNameChar_head?_equals,
    h.dropWhile_append isNameChar_head?_equals, hkey]
  cases value with
  | nil => rfl
  | cons d value => rfl

/-- A segment without a key is a value as a whole. -/
theorem parameter?_bare (h : ¬ StartsWithKey segment) :
    parameter? start segment =
      if segment = [] then none else some (ParameterShape.place start ⟨none, segment⟩) := by
  rw [parameter?]
  split
  -- The segment is split only if a name stands before a `=`.
  · next c cs value hname hrest =>
    refine absurd ⟨segment.takeWhile isNameChar, value, .takeWhile ?_, ?_⟩ h
    · rw [hname]
      exact List.cons_ne_nil c cs
    · rw [← hrest, List.takeWhile_append_dropWhile]
  · cases segment with
    | nil => rfl
    | cons c segment => rfl

/-- The value of a parameter with a key is balanced as the whole parameter is. -/
theorem balanced_value_of_key (h : IsName key) (hs : Balanced false (key ++ '=' :: value)) :
    Balanced false value := by
  obtain ⟨-, hkey⟩ := h
  induction key with
  | nil => exact hs.of_cons (by decide) (by decide)
  | cons c key ih =>
    obtain ⟨⟨hquote, hopen, -⟩, -⟩ := plain_of_isNameChar (hkey c List.mem_cons_self)
    exact ih (hs.of_cons hquote hopen) fun d hd => hkey d (List.mem_cons_of_mem c hd)

theorem ParameterShape.WellFormed.balanced {p : ParameterShape} (h : p.WellFormed) :
    Balanced false p.text := by
  obtain ⟨_ | key, value⟩ := p
  · exact h.balanced_value
  · have hequals : Balanced false ('=' :: value) :=
      h.balanced_value.other (by decide) (by decide) (by decide) (by decide)
    exact (balanced_of_isName (h.isName_key key rfl)).append hequals

theorem ParameterShape.WellFormed.text_ne_nil {p : ParameterShape} (h : p.WellFormed) :
    p.text ≠ [] := by
  obtain ⟨_ | key, value⟩ := p
  · exact h.value_ne_nil
  · exact List.append_ne_nil_of_right_ne_nil key (List.cons_ne_nil '=' value)

/-- A balanced segment is read as a parameter exactly if it is the text of one. -/
theorem parameter?_eq_some_iff {parameter : TypeParameter} (h : Balanced false segment) :
    parameter? start segment = some parameter ↔
      ∃ p : ParameterShape, p.WellFormed ∧ p.text = segment ∧ p.place start = parameter := by
  constructor
  · intro hread
    by_cases hkey : StartsWithKey segment
    · obtain ⟨key, value, hname, rfl⟩ := hkey
      rw [parameter?_key hname, Option.ite_none_left_eq_some] at hread
      obtain ⟨hvalue, hplace⟩ := hread
      have hbalanced := balanced_value_of_key hname h
      refine ⟨⟨some key, value⟩, ⟨?_, nofun, hvalue, hbalanced⟩, rfl, Option.some.inj hplace⟩
      rintro _ ⟨⟩
      exact hname
    · rw [parameter?_bare hkey, Option.ite_none_left_eq_some] at hread
      obtain ⟨hvalue, hplace⟩ := hread
      exact ⟨⟨none, segment⟩, ⟨nofun, fun _ => hkey, hvalue, h⟩, rfl, Option.some.inj hplace⟩
  · rintro ⟨⟨_ | key, value⟩, hp, rfl, rfl⟩
    · rw [ParameterShape.text, parameter?_bare (hp.not_startsWithKey rfl), if_neg hp.value_ne_nil]
    · rw [ParameterShape.text, parameter?_key (hp.isName_key key rfl), if_neg hp.value_ne_nil]

/-! ## Parameter lists -/

/-- The texts between the commas of a parameter list: the first one and the others. A list without
parameters is one empty text. -/
def segmentTexts : List ParameterShape → List Char × List (List Char)
  | [] => ([], [])
  | p :: ps => (p.text, ps.map ParameterShape.text)

/-- Parameters with commas between them. -/
def listText (ps : List ParameterShape) : List Char :=
  (segmentTexts ps).1 ++ (segmentTexts ps).2.flatMap (',' :: ·)

/-- The parameters of a list that begins at `start`, each one byte after the one before. -/
def placeAll : (start : Nat) → List ParameterShape → List TypeParameter
  | _, [] => []
  | start, p :: ps => p.place start :: placeAll (start + Text.byteLength p.text + 1) ps

variable {parameters : List TypeParameter} {name first rest source : List Char}
  {others : List (List Char)}

theorem balanced_of_mem_segmentTexts {ps : List ParameterShape} (h : ∀ p ∈ ps, p.WellFormed) :
    ∀ s ∈ (segmentTexts ps).1 :: (segmentTexts ps).2, Balanced false s := by
  cases ps with
  | nil =>
    intro s hs
    obtain rfl : s = [] := by simpa [segmentTexts] using hs
    exact .nil
  | cons p ps =>
    intro s hs
    obtain ⟨q, hq, rfl⟩ : ∃ q ∈ p :: ps, q.text = s := by
      rw [← List.mem_map]
      exact hs
    exact (h q hq).balanced

/-- A segment and those after it are read if the segment is the text of a parameter
and the others are read. -/
theorem parameterThen_eq_ok_iff {fault : Unexpected}
    {later : Except Unexpected (List TypeParameter)} (h : Balanced false segment) :
    (match parameter? start segment with
      | none => Except.error fault
      | some parameter => do
        let rest ← later
        return parameter :: rest) = Except.ok parameters ↔
      ∃ p : ParameterShape, p.WellFormed ∧ p.text = segment ∧
        ∃ rest, later = .ok rest ∧ p.place start :: rest = parameters := by
  constructor
  · intro hread
    split at hread
    · contradiction
    · next parameter hparameter =>
      obtain ⟨rest, hrest, hread⟩ := bind_eq_ok_iff.mp hread
      obtain ⟨p, hp, htext, rfl⟩ := (parameter?_eq_some_iff h).mp hparameter
      exact ⟨p, hp, htext, rest, hrest, Except.ok.inj hread⟩
  · rintro ⟨p, hp, htext, rest, hrest, rfl⟩
    have hparameter : parameter? start segment = some (p.place start) :=
      (parameter?_eq_some_iff h).mpr ⟨p, hp, htext, rfl⟩
    simp only [hparameter]
    exact bind_eq_ok_iff.mpr ⟨rest, hrest, rfl⟩

/-- The later segments are read exactly if each is the text of a parameter. -/
theorem laterParameters_eq_ok_iff {comma : Nat} (h : ∀ s ∈ others, Balanced false s) :
    laterParameters comma others = .ok parameters ↔
      ∃ ps : List ParameterShape, (∀ p ∈ ps, p.WellFormed) ∧
        ps.map ParameterShape.text = others ∧ placeAll (comma + 1) ps = parameters := by
  induction others generalizing comma parameters with
  | nil =>
    rw [laterParameters, Except.ok.injEq]
    constructor
    · rintro rfl
      exact ⟨[], nofun, rfl, rfl⟩
    · rintro ⟨ps, -, htexts, rfl⟩
      rw [List.map_eq_nil_iff.mp htexts, placeAll]
  | cons segment others ih =>
    obtain ⟨hsegment, hothers⟩ := List.forall_mem_cons.mp h
    rw [laterParameters]
    refine (parameterThen_eq_ok_iff hsegment).trans ⟨?_, ?_⟩
    · rintro ⟨p, hp, rfl, rest, hrest, rfl⟩
      obtain ⟨ps, hps, rfl, rfl⟩ := (ih hothers).mp hrest
      exact ⟨p :: ps, List.forall_mem_cons.mpr ⟨hp, hps⟩, rfl, rfl⟩
    · rintro ⟨_ | ⟨p, ps⟩, hps, htexts, rfl⟩
      · contradiction
      obtain ⟨rfl, rfl⟩ := List.cons.inj htexts
      obtain ⟨hp, hps⟩ := List.forall_mem_cons.mp hps
      exact ⟨p, hp, rfl, _, (ih hothers).mpr ⟨ps, hps, rfl, rfl⟩, rfl⟩

/-- The segments of a closed list are read exactly if they are the texts of parameters. -/
theorem readParameters_eq_ok_iff (h : ∀ s ∈ first :: others, Balanced false s) :
    readParameters start ⟨first, others, .closed rest⟩ source = .ok parameters ↔
      ∃ ps : List ParameterShape, (∀ p ∈ ps, p.WellFormed) ∧ segmentTexts ps = (first, others) ∧
        placeAll start ps = parameters := by
  obtain ⟨hfirst, hothers⟩ := List.forall_mem_cons.mp h
  rw [readParameters]
  -- One empty segment is a list without parameters; an empty segment among others is no parameter.
  by_cases hempty : first = [] ∧ others = []
  · obtain ⟨rfl, rfl⟩ := hempty
    constructor
    · rintro ⟨⟩
      exact ⟨[], nofun, rfl, rfl⟩
    · rintro ⟨_ | ⟨p, ps⟩, hps, htexts, rfl⟩
      · rfl
      · exact absurd (Prod.mk.inj htexts).1 (hps p List.mem_cons_self).text_ne_nil
  · have hread : (first.isEmpty && others.isEmpty) = false := by
      rw [← Bool.not_eq_true, Bool.and_eq_true, List.isEmpty_iff, List.isEmpty_iff]
      exact hempty
    simp only [hread, Bool.false_eq_true, if_false]
    refine (parameterThen_eq_ok_iff hfirst).trans ⟨?_, ?_⟩
    · rintro ⟨p, hp, rfl, rest, hrest, rfl⟩
      obtain ⟨ps, hps, rfl, rfl⟩ := (laterParameters_eq_ok_iff hothers).mp hrest
      exact ⟨p :: ps, List.forall_mem_cons.mpr ⟨hp, hps⟩, rfl, rfl⟩
    · rintro ⟨_ | ⟨p, ps⟩, hps, htexts, rfl⟩
      · exact absurd (Prod.mk.inj htexts) fun ⟨hf, ho⟩ => hempty ⟨hf.symm, ho.symm⟩
      · obtain ⟨rfl, rfl⟩ := Prod.mk.inj htexts
        obtain ⟨hp, hps⟩ := List.forall_mem_cons.mp hps
        exact ⟨p, hp, rfl, _, (laterParameters_eq_ok_iff hothers).mpr ⟨ps, hps, rfl, rfl⟩, rfl⟩

/-- The list of parameters is balanced inside its brackets. -/
theorem balanced_listText {ps : List ParameterShape} (h : ∀ p ∈ ps, p.WellFormed) :
    Balanced true (listText ps) := by
  have hjoined : ∀ others : List (List Char), (∀ s ∈ others, Balanced false s) →
      Balanced true (others.flatMap (',' :: ·)) := by
    intro others hothers
    induction others with
    | nil => exact .nil
    | cons s others ih =>
      obtain ⟨hs, hothers⟩ := List.forall_mem_cons.mp hothers
      rw [List.flatMap_cons]
      exact .append (.other (by decide) (by decide) (by decide) (fun _ => rfl) hs.inGroup)
        (ih hothers)
  obtain ⟨hfirst, hothers⟩ := List.forall_mem_cons.mp (balanced_of_mem_segmentTexts h)
  exact hfirst.inGroup.append (hjoined _ hothers)

theorem nestingDepth_name_append {s : List Char} (h : ∀ c ∈ name, isNameChar c) :
    nestingDepth (name ++ s) = nestingDepth s := by
  induction name with
  | nil => rfl
  | cons c name ih =>
    obtain ⟨hc, hname⟩ := List.forall_mem_cons.mp h
    obtain ⟨⟨hquote, hopen, hclose, -⟩, -⟩ := plain_of_isNameChar hc
    rw [List.cons_append, nestingDepth_cons hquote hopen hclose, ih hname]

/-- A key does not nest. -/
theorem nestingDepth_key_append {s : List Char} (h : IsName name) :
    nestingDepth (name ++ '=' :: s) = nestingDepth s := by
  rw [nestingDepth_name_append h.2]
  exact nestingDepth_cons (by decide) (by decide) (by decide)

/-- Behind a name all of the nesting is inside the bracket that follows it. -/
theorem nestingDepth_name_bracket {s : List Char} (h : IsName name) :
    nestingDepth (name ++ '[' :: s) = (⟨none, 1⟩ : Nesting).peak s := by
  rw [nestingDepth_name_append h.2, nestingDepth, Nesting.peak]
  exact max_eq_right (Nat.zero_le _)

theorem ParameterShape.WellFormed.nestingDepth_text {p : ParameterShape} (h : p.WellFormed) :
    nestingDepth p.text = nestingDepth p.value := by
  obtain ⟨_ | key, value⟩ := p
  · rfl
  · exact nestingDepth_key_append (h.isName_key key rfl)

theorem listText_cons_cons {p q : ParameterShape} {ps : List ParameterShape} :
    listText (p :: q :: ps) = p.text ++ ',' :: listText (q :: ps) := by
  simp [listText, segmentTexts]

/-- A list nests as deep as the value that nests deepest. -/
theorem nestingDepth_listText_cons {p : ParameterShape} {ps : List ParameterShape}
    (h : p.WellFormed) :
    nestingDepth (listText (p :: ps)) =
      max (nestingDepth p.value) (nestingDepth (listText ps)) := by
  cases ps with
  | nil =>
    have hlist : listText [p] = p.text := List.append_nil p.text
    rw [hlist, h.nestingDepth_text]
    exact (Nat.max_zero _).symm
  | cons q ps =>
    rw [listText_cons_cons, h.balanced.nestingDepth_append, h.nestingDepth_text,
      nestingDepth_cons (by decide) (by decide) (by decide)]

/-! ## Expressions -/

/-- A type expression without the places of its parts. -/
structure Shape where
  /-- The name of a kind. -/
  name : List Char
  /-- The parameters, if brackets are written. -/
  parameters : Option (List ParameterShape)

namespace Shape

/-- The expression as it is written. -/
def text : Shape → List Char
  | ⟨name, none⟩ => name
  | ⟨name, some ps⟩ => name ++ '[' :: (listText ps ++ [']'])

/-- The expression as it stands in a text from `start` on. -/
def place (start : Nat) (shape : Shape) : TypeExpr :=
  let afterName := start + Text.byteLength shape.name
  { name := piece start shape.name
    parameters := shape.parameters.map fun ps =>
      ⟨placeAll (afterName + 1) ps, Span.clamped afterName (start + Text.byteLength shape.text)⟩ }

/-- An expression of the grammar. -/
structure WellFormed (shape : Shape) : Prop where
  isName_name : IsName shape.name
  parameters : ∀ ps ∈ shape.parameters, ∀ p ∈ ps, p.WellFormed

end Shape

namespace Shape.WellFormed

variable {shape : Shape}

/-- An expression is balanced. -/
theorem balanced_text (h : shape.WellFormed) : Balanced false shape.text := by
  obtain ⟨name, _ | ps⟩ := shape
  · exact balanced_of_isName h.isName_name
  · have hlist := balanced_listText (h.parameters ps rfl)
    exact (balanced_of_isName h.isName_name).append (hlist.group .nil)

/-- Brackets nest one deeper than what is between them. -/
theorem nestingDepth_text {name : List Char} {ps : List ParameterShape}
    (h : Shape.WellFormed ⟨name, some ps⟩) :
    nestingDepth (Shape.text ⟨name, some ps⟩) = 1 + nestingDepth (listText ps) := by
  have hlist := balanced_listText (h.parameters ps rfl)
  rw [Shape.text, nestingDepth_name_append h.isName_name.2, hlist.nestingDepth_group]

end Shape.WellFormed

theorem isNameChar_bracket : isNameChar '[' = false :=
  isNameChar_punctuation (by decide)

theorem isNameChar_head?_bracket {s : List Char} :
    ∀ c ∈ ('[' :: s).head?, isNameChar c = false :=
  isNameChar_head?_cons isNameChar_bracket

/-- The name that a parameter may start with is not the name of an expression: an expression is
no value after a key. -/
theorem Shape.WellFormed.not_startsWithKey {shape : Shape} (h : shape.WellFormed) :
    ¬ StartsWithKey shape.text := by
  rintro ⟨key, value, hkey, htext⟩
  -- After the longest run of name characters stands a `=` there, but a bracket or nothing here.
  have hrest : (key ++ '=' :: value).dropWhile isNameChar = '=' :: value :=
    hkey.dropWhile_append isNameChar_head?_equals
  rw [← htext] at hrest
  obtain ⟨name, _ | ps⟩ := shape
  · have hnil : name.dropWhile isNameChar = [] := List.dropWhile_eq_nil_iff.mpr h.isName_name.2
    rw [Shape.text, hnil] at hrest
    contradiction
  · rw [Shape.text, h.isName_name.dropWhile_append isNameChar_head?_bracket] at hrest
    injection hrest with hhead
    contradiction

variable {expr : TypeExpr}

theorem read_name (h : IsName name) : read start name = .ok (Shape.place start ⟨name, none⟩) := by
  have htake : name.takeWhile isNameChar = name := List.takeWhile_eq_self_iff.mpr h.2
  have hdrop : name.dropWhile isNameChar = [] := List.dropWhile_eq_nil_iff.mpr h.2
  obtain ⟨c, cs, hname⟩ := List.exists_cons_of_ne_nil h.1
  rw [read, htake, hdrop, hname]
  rfl

/-- The brackets after a name have to be closed by the last character of the text. -/
theorem read_bracket_eq_ok_iff (h : IsName name) :
    read start (name ++ '[' :: source) = .ok expr ↔
      ∃ parameters, readParameters (start + Text.byteLength name + 1)
        (segments .outside source) source =
          .ok parameters ∧
        (segments .outside source).ending = .closed [] ∧
        expr = ⟨piece start name, some ⟨parameters, Span.clamped (start + Text.byteLength name)
          (start + Text.byteLength (name ++ '[' :: source))⟩⟩ := by
  obtain ⟨c, cs, hname⟩ := List.exists_cons_of_ne_nil h.1
  rw [read, h.takeWhile_append isNameChar_head?_bracket,
    h.dropWhile_append isNameChar_head?_bracket]
  simp only [hname]
  rw [bind_eq_ok_iff]
  refine exists_congr fun parameters => and_congr_right fun _ => ?_
  split
  · next hending => simp [hending, eq_comm, pure, Except.pure]
  · next hending => simp [hending]
  · next _ hclosed _ =>
    simp only [reduceCtorEq, false_iff]
    rintro ⟨hending, -⟩
    exact hclosed hending

/-- What can be read starts with a name, and brackets follow if anything does. -/
theorem exists_name_of_read (h : read start source = .ok expr) :
    ∃ name, IsName name ∧ (source = name ∨ ∃ text, source = name ++ '[' :: text) := by
  have hsource : source.takeWhile isNameChar ++ source.dropWhile isNameChar = source :=
    List.takeWhile_append_dropWhile
  rw [read] at h
  split at h
  · contradiction
  · next hrest hne =>
    rw [hrest, List.append_nil] at hsource
    exact ⟨_, .takeWhile hne, .inl hsource.symm⟩
  · next text hrest hne =>
    rw [hrest] at hsource
    exact ⟨_, .takeWhile hne, .inr ⟨text, hsource.symm⟩⟩
  · contradiction

/-- A text is read as an expression exactly if it is the text of a well-formed shape; the expression
has the parts of the shape at their places in the text. -/
theorem read_eq_ok_iff :
    read start source = .ok expr ↔
      ∃ shape : Shape, shape.WellFormed ∧ shape.text = source ∧ shape.place start = expr := by
  constructor
  · intro h
    obtain ⟨name, hname, rfl | ⟨text, rfl⟩⟩ := exists_name_of_read h
    · rw [read_name hname] at h
      exact ⟨⟨source, none⟩, ⟨hname, nofun⟩, rfl, Except.ok.inj h⟩
    · obtain ⟨parameters, hread, hending, rfl⟩ := (read_bracket_eq_ok_iff hname).mp h
      -- The text is put together again from its segments, which are the texts of the parameters.
      generalize hsplit : segments .outside text = split at hread hending
      obtain ⟨first, others, ending⟩ := split
      obtain rfl : ending = .closed [] := hending
      obtain ⟨hbalanced, htext⟩ := segments_eq_closed_iff.mp hsplit
      obtain ⟨ps, hps, htexts, rfl⟩ := (readParameters_eq_ok_iff hbalanced).mp hread
      have hlist : listText ps ++ [']'] = text := by rw [htext, listText, htexts]
      refine ⟨⟨name, some ps⟩, ⟨hname, ?_⟩, ?_, ?_⟩
      · rintro _ ⟨⟩
        exact hps
      · rw [Shape.text, hlist]
      · rw [Shape.place, Shape.text, hlist]
        rfl
  · rintro ⟨⟨name, _ | ps⟩, hshape, rfl, rfl⟩
    · exact read_name hshape.isName_name
    -- The texts of the parameters are balanced, so they are the segments that are found.
    · have hps := hshape.parameters ps rfl
      have hbalanced := balanced_of_mem_segmentTexts hps
      have hsplit : segments .outside (listText ps ++ [']']) =
          ⟨(segmentTexts ps).1, (segmentTexts ps).2, .closed []⟩ := segments_of_balanced hbalanced
      rw [Shape.text, read_bracket_eq_ok_iff hshape.isName_name, hsplit]
      refine ⟨_, (readParameters_eq_ok_iff hbalanced).mpr ⟨ps, hps, rfl, rfl⟩, rfl, rfl⟩

/-! ## Parsing -/

variable {fault : Fault}

theorem checkNesting_eq_ok_iff : checkNesting start source = .ok () ↔
    nestingDepth source ≤ maxNesting := by
  have hdeep : tooDeepAt? maxNesting .outside start source = none ↔
      nestingDepth source ≤ maxNesting :=
    tooDeepAt?_eq_none_iff (Nat.zero_le maxNesting)
  rw [checkNesting, ← hdeep]
  cases tooDeepAt? maxNesting .outside start source with
  | some offset => exact ⟨nofun, nofun⟩
  | none => exact ⟨fun _ => rfl, fun _ => rfl⟩

theorem checkNesting_eq_error_iff_exists_offset :
    checkNesting start source = .error fault ↔
      ∃ offset, tooDeepAt? maxNesting .outside start source = some offset ∧
        fault = .nestedTooDeeply offset := by
  rw [checkNesting]
  cases tooDeepAt? maxNesting .outside start source with
  | some offset => simp [eq_comm]
  | none => simp

theorem parse_eq_ok_iff :
    parse start source = .ok expr ↔
      nestingDepth source ≤ maxNesting ∧ read start source = .ok expr := by
  rw [parse, check_bind_eq_ok_iff, checkNesting_eq_ok_iff, mapError_eq_ok_iff]

theorem parse_eq_error_iff :
    parse start source = .error fault ↔
      (∃ offset, tooDeepAt? maxNesting .outside start source = some offset ∧
        fault = .nestedTooDeeply offset) ∨
        nestingDepth source ≤ maxNesting ∧
          ∃ place, read start source = .error place ∧
            fault = .malformed (String.ofList source) place := by
  rw [parse, bind_eq_error_iff, checkNesting_eq_error_iff_exists_offset]
  apply or_congr_right
  constructor
  · rintro ⟨_, hcheck, hread⟩
    obtain ⟨place, hplace, rfl⟩ := mapError_eq_error_iff.mp hread
    exact ⟨checkNesting_eq_ok_iff.mp hcheck, place, hplace, rfl⟩
  · rintro ⟨hdepth, place, hread, rfl⟩
    exact ⟨(), checkNesting_eq_ok_iff.mpr hdepth, mapError_eq_error_iff.mpr ⟨place, hread, rfl⟩⟩

end DatasetSchema.TypeExpr
