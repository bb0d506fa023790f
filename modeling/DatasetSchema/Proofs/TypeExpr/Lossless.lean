import DatasetSchema.Proofs.TypeExpr.Shape

/-!
# Expressions as slices of their texts

Before it is given a meaning, a type expression is read from its text as a tree: the name and the
parameters, each with the span that it covers. Nothing of the text is lost in this tree. The parts
are the slices of the text under their spans, the parameters stand one after the other with a comma
between neighbours, and the parts put together again are the text.

## Main definitions

* `TypeExpr.IsExpression`: the texts that are type expressions;
* `TypeExpr.StandsAt`: the slice of a text under a span;
* `TypeExpr.IsLossless`: an expression from which its text is known.

## Main results

* `TypeExpr.parse_isLossless`: which texts are parsed, and that nothing of them is lost.
-/

namespace DatasetSchema

namespace TypeExpr

/-! ## The texts of expressions -/

/-- A parameter as it is written: a value, alone or after a name and `=`. Values are balanced and
not empty, and a value that starts with a name and `=` does not stand alone. -/
inductive IsParameter : List Char → Prop
  | bare {value : List Char} :
      ¬ StartsWithKey value → value ≠ [] → Balanced false value → IsParameter value
  | keyed {key value : List Char} :
      IsName key → value ≠ [] → Balanced false value → IsParameter (key ++ '=' :: value)

/-- A type expression as it is written: a name, and perhaps parameters between brackets,
with commas between them. -/
inductive IsExpression : List Char → Prop
  | name {name : List Char} : IsName name → IsExpression name
  | bracketed {name : List Char} {segments : List (List Char)} :
      IsName name → (∀ segment ∈ segments, IsParameter segment) →
      IsExpression (name ++ '[' :: ([','].intercalate segments ++ [']']))

theorem isParameter_iff {segment : List Char} :
    IsParameter segment ↔ ∃ p : ParameterShape, p.WellFormed ∧ p.text = segment := by
  constructor
  · rintro (⟨hbare, hne, hvalue⟩ | ⟨hkey, hne, hvalue⟩)
    · exact ⟨⟨none, segment⟩, ⟨nofun, fun _ => hbare, hne, hvalue⟩, rfl⟩
    · refine ⟨⟨some _, _⟩, ⟨?_, nofun, hne, hvalue⟩, rfl⟩
      rintro _ ⟨⟩
      exact hkey
  · rintro ⟨⟨_ | key, value⟩, hp, rfl⟩
    · exact .bare (hp.not_startsWithKey rfl) hp.value_ne_nil hp.balanced_value
    · exact .keyed (hp.isName_key key rfl) hp.value_ne_nil hp.balanced_value

/-- A list of parameters has commas between neighbours. -/
theorem listText_eq_intercalate (ps : List ParameterShape) :
    listText ps = [','].intercalate (ps.map ParameterShape.text) := by
  induction ps with
  | nil => rfl
  | cons p ps ih =>
    cases ps with
    | nil => simp [listText, segmentTexts]
    | cons q ps =>
      rw [listText_cons_cons, ih]
      simp [List.intercalate]

/-- Texts of parameters have shapes. -/
theorem exists_map_text_eq {segments : List (List Char)}
    (h : ∀ segment ∈ segments, IsParameter segment) :
    ∃ ps : List ParameterShape, (∀ p ∈ ps, p.WellFormed) ∧
      ps.map ParameterShape.text = segments := by
  induction segments with
  | nil => exact ⟨[], nofun, rfl⟩
  | cons segment segments ih =>
    obtain ⟨hsegment, hsegments⟩ := List.forall_mem_cons.mp h
    obtain ⟨p, hp, rfl⟩ := isParameter_iff.mp hsegment
    obtain ⟨ps, hps, rfl⟩ := ih hsegments
    exact ⟨p :: ps, List.forall_mem_cons.mpr ⟨hp, hps⟩, rfl⟩

theorem isExpression_iff {source : List Char} :
    IsExpression source ↔ ∃ shape : Shape, shape.WellFormed ∧ shape.text = source := by
  constructor
  · rintro (hname | ⟨hname, hsegments⟩)
    · exact ⟨⟨source, none⟩, ⟨hname, nofun⟩, rfl⟩
    · obtain ⟨ps, hps, rfl⟩ := exists_map_text_eq hsegments
      refine ⟨⟨_, some ps⟩, ⟨hname, ?_⟩, ?_⟩
      · rintro _ ⟨⟩
        exact hps
      · rw [Shape.text, listText_eq_intercalate]
  · rintro ⟨⟨name, _ | ps⟩, hshape, rfl⟩
    · exact .name hshape.isName_name
    · rw [Shape.text, listText_eq_intercalate]
      apply IsExpression.bracketed hshape.isName_name
      rw [List.forall_mem_map]
      exact fun p hp => isParameter_iff.mpr ⟨p, hshape.parameters ps rfl p hp, rfl⟩

/-! ## Slices -/

/-- The part of a text that stands under a span: the span begins where the part begins, and it
ends where the part ends. -/
def StandsAt (source : List Char) (span : Span) (part : List Char) : Prop :=
  ∃ before after, source = before ++ part ++ after ∧ Text.byteLength before = span.start ∧
    Text.byteLength (before ++ part) = span.stop

section Slices

variable {source before cs after : List Char} {start : Nat}

theorem standsAt_ofLength (hsource : source = before ++ cs ++ after)
    (hstart : Text.byteLength before = start) :
    StandsAt source (Span.ofLength start (Text.byteLength cs)) cs := by
  refine ⟨before, after, hsource, hstart, ?_⟩
  rw [Text.byteLength_append, hstart]
  rfl

/-- A piece of a text stands where it is taken from. -/
theorem standsAt_piece (hsource : source = before ++ cs ++ after)
    (hstart : Text.byteLength before = start) :
    StandsAt source (piece start cs).span (piece start cs).value.toList := by
  rw [piece, String.toList_ofList]
  exact standsAt_ofLength hsource hstart

end Slices

end TypeExpr

open TypeExpr

/-- A parameter put together again from its parts. -/
def TypeParameter.text (parameter : TypeParameter) : List Char :=
  match parameter.key with
  | none => parameter.value.value.toList
  | some key => key.value.toList ++ '=' :: parameter.value.value.toList

/-- An expression put together again from its parts. -/
def TypeExpr.text (expr : TypeExpr) : List Char :=
  match expr.parameters with
  | none => expr.name.value.toList
  | some parameters =>
    expr.name.value.toList ++
      '[' :: ([','].intercalate (parameters.value.map TypeParameter.text) ++ [']'])

/-- The parts of a parameter are slices of a text. -/
structure TypeParameter.IsLossless (source : List Char) (parameter : TypeParameter) : Prop where
  /-- The parameter is a slice. -/
  whole : StandsAt source parameter.span parameter.text
  /-- So is its key, at its beginning. -/
  key : ∀ key ∈ parameter.key, StandsAt source key.span key.value.toList ∧
    key.span.start = parameter.span.start ∧ IsName key.value.toList
  /-- So is its value, at its end. -/
  value : StandsAt source parameter.value.span parameter.value.value.toList ∧
    parameter.value.span.stop = parameter.span.stop
  /-- What starts with a name and `=` has a key. -/
  bare : parameter.key = none → ¬ StartsWithKey parameter.text

namespace TypeExpr

/-- The parameters are slices of a text. They fill it from `start` up to `stop`, and between
neighbours there is one comma. -/
structure IsLosslessList (source : List Char) (start stop : Nat) (parameters : List TypeParameter) :
    Prop where
  /-- All parts of the parameters are slices. -/
  slices : ∀ parameter ∈ parameters, parameter.IsLossless source
  /-- The first parameter begins at `start`. -/
  first : ∀ parameter ∈ parameters.head?, parameter.span.start = start
  /-- Between neighbours there is one comma. -/
  neighbours : parameters.IsChain fun earlier later =>
    StandsAt source (Span.ofLength earlier.span.stop 1) [','] ∧
      later.span.start = earlier.span.stop + 1
  /-- The last parameter ends at `stop`. -/
  last : ∀ parameter ∈ parameters.getLast?, parameter.span.stop = stop

/-- The parts of an expression are slices of a text, and put together again they are the text. -/
structure IsLossless (source : List Char) (expr : TypeExpr) : Prop where
  /-- The name stands at the beginning. -/
  name : StandsAt source expr.name.span expr.name.value.toList ∧ expr.name.span.start = 0 ∧
    IsName expr.name.value.toList
  /-- The brackets begin after the name and end with the text. -/
  brackets : ∀ parameters ∈ expr.parameters,
    parameters.span.start = expr.name.span.stop ∧ parameters.span.stop = Text.byteLength source ∧
      ∃ inner, StandsAt source parameters.span ('[' :: (inner ++ [']']))
  /-- The parameters fill the brackets. -/
  parameters : ∀ parameters ∈ expr.parameters,
    IsLosslessList source (parameters.span.start + 1) (parameters.span.stop - 1) parameters.value
  /-- Put together again, the parts are the text. -/
  text : expr.text = source

/-! ## The places of a shape -/

variable {p : ParameterShape} {ps : List ParameterShape} {source before after : List Char}

theorem text_place (p : ParameterShape) (start : Nat) : (p.place start).text = p.text := by
  obtain ⟨_ | key, value⟩ := p
  · exact String.toList_ofList
  · simp [ParameterShape.place, TypeParameter.text, ParameterShape.text, piece]

theorem map_text_placeAll (ps : List ParameterShape) (start : Nat) :
    (placeAll start ps).map TypeParameter.text = ps.map ParameterShape.text := by
  induction ps generalizing start with
  | nil => rfl
  | cons p ps ih => rw [placeAll, List.map_cons, List.map_cons, text_place, ih]

/-- A parameter of a shape is a slice of the text that it stands in. -/
theorem ParameterShape.WellFormed.isLossless_place (h : p.WellFormed)
    (hsource : source = before ++ p.text ++ after) :
    (p.place (Text.byteLength before)).IsLossless source where
  whole := by
    rw [text_place]
    exact standsAt_ofLength hsource rfl
  key := by
    obtain ⟨_ | key, value⟩ := p
    · rintro _ ⟨⟩
    rintro _ ⟨⟩
    have hkey : source = before ++ key ++ ('=' :: value ++ after) := by
      simpa [ParameterShape.text] using hsource
    refine ⟨standsAt_piece hkey rfl, rfl, ?_⟩
    rw [piece, String.toList_ofList]
    exact h.isName_key key rfl
  value := by
    obtain ⟨_ | key, value⟩ := p
    · exact ⟨standsAt_piece hsource rfl, rfl⟩
    · -- The key and the `=` are taken as one slice before the value.
      have hvalue : source = before ++ (key ++ ['=']) ++ value ++ after := by
        simpa [ParameterShape.text] using hsource
      have hstart : Text.byteLength (before ++ (key ++ ['='])) =
          Text.byteLength before + Text.byteLength key + 1 := by
        simp [Nat.add_assoc, Char.utf8Size]
      refine ⟨standsAt_piece hvalue hstart, ?_⟩
      show Text.byteLength before + Text.byteLength key + 1 + Text.byteLength value =
        Text.byteLength before + Text.byteLength (key ++ '=' :: value)
      rw [← hstart]
      simp [Nat.add_assoc]
  bare := by
    obtain ⟨_ | key, value⟩ := p
    · intro _
      rw [text_place]
      exact h.not_startsWithKey rfl
    · rintro ⟨⟩

/-- One more parameter may stand before others, with a comma after it. -/
theorem IsLosslessList.cons {first second : TypeParameter} {rest : List TypeParameter} {stop : Nat}
    (hfirst : first.IsLossless source)
    (hcomma : StandsAt source (Span.ofLength first.span.stop 1) [','])
    (hrest : IsLosslessList source (first.span.stop + 1) stop (second :: rest)) :
    IsLosslessList source first.span.start stop (first :: second :: rest) where
  slices := List.forall_mem_cons.mpr ⟨hfirst, hrest.slices⟩
  first := by
    rintro _ ⟨⟩
    rfl
  neighbours := hrest.neighbours.cons_cons ⟨hcomma, hrest.first second rfl⟩
  last := hrest.last

/-- The parameters of a list fill it. -/
theorem isLosslessList_placeAll (h : ∀ p ∈ ps, p.WellFormed)
    (hsource : source = before ++ listText ps ++ after) :
    IsLosslessList source (Text.byteLength before) (Text.byteLength (before ++ listText ps))
      (placeAll (Text.byteLength before) ps) := by
  -- The induction is over all texts before the list: the rest stands after one more
  -- parameter and a comma.
  induction ps generalizing before with
  | nil => exact ⟨nofun, nofun, .nil, nofun⟩
  | cons p ps ih =>
    obtain ⟨hp, hps⟩ := List.forall_mem_cons.mp h
    have hstop : (p.place (Text.byteLength before)).span.stop =
        Text.byteLength (before ++ p.text) :=
      (Text.byteLength_append before p.text).symm
    cases ps with
    | nil =>
      have hlist : listText [p] = p.text := List.append_nil p.text
      rw [hlist] at hsource ⊢
      refine ⟨?_, ?_, .singleton _, ?_⟩
      · rintro _ (_ | ⟨_, ⟨⟩⟩)
        exact hp.isLossless_place hsource
      · rintro _ ⟨⟩
        rfl
      · rintro _ ⟨⟩
        exact hstop
    | cons q ps =>
      rw [listText_cons_cons] at hsource ⊢
      -- The same text is cut around the parameter, around the comma, and behind both.
      have hfirst : source = before ++ p.text ++ (',' :: listText (q :: ps) ++ after) := by
        simpa using hsource
      have hcomma : source = (before ++ p.text) ++ [','] ++ (listText (q :: ps) ++ after) := by
        simpa using hsource
      have hlater : source = before ++ p.text ++ [','] ++ listText (q :: ps) ++ after := by
        simpa using hsource
      have hrest := ih hps hlater
      have hnext : Text.byteLength (before ++ p.text ++ [',']) =
          (p.place (Text.byteLength before)).span.stop + 1 := by
        rw [hstop, Text.byteLength_append]
        rfl
      rw [hnext] at hrest
      have hlist : before ++ (p.text ++ ',' :: listText (q :: ps)) =
          before ++ p.text ++ [','] ++ listText (q :: ps) := by
        simp
      rw [hlist]
      exact hrest.cons (hp.isLossless_place hfirst) (hstop ▸ standsAt_ofLength hcomma rfl)

/-- The brackets of a shape stand behind its name, up to the end. -/
theorem brackets_place {name : List Char} :
    Span.clamped (0 + Text.byteLength name) (0 + Text.byteLength (Shape.text ⟨name, some ps⟩)) =
      Span.ofLength (Text.byteLength name) (Text.byteLength ('[' :: (listText ps ++ [']']))) := by
  simp [Span.clamped, Span.ofLength, Shape.text]

/-- The tree of a shape is its text with nothing left out. -/
theorem Shape.WellFormed.isLossless_place {shape : Shape} (h : shape.WellFormed) :
    (shape.place 0).IsLossless shape.text where
  name := by
    have hname : IsName (piece 0 shape.name).value.toList := by
      rw [piece, String.toList_ofList]
      exact h.isName_name
    obtain ⟨name, _ | ps⟩ := shape
    · have hsource : name = [] ++ name ++ [] := (List.append_nil name).symm
      exact ⟨standsAt_piece hsource rfl, rfl, hname⟩
    · have hsource : Shape.text ⟨name, some ps⟩ = [] ++ name ++ '[' :: (listText ps ++ [']']) := rfl
      exact ⟨standsAt_piece hsource rfl, rfl, hname⟩
  brackets := by
    obtain ⟨name, _ | ps⟩ := shape
    · exact nofun
    rintro _ ⟨⟩
    have hsource : Shape.text ⟨name, some ps⟩ = name ++ ('[' :: (listText ps ++ [']'])) ++ [] :=
      (List.append_nil _).symm
    refine ⟨rfl, ?_, listText ps, ?_⟩
    · show (Span.clamped _ _).stop = _
      rw [brackets_place, Shape.text, Text.byteLength_append]
      rfl
    · show StandsAt _ (Span.clamped _ _) _
      rw [brackets_place]
      exact standsAt_ofLength hsource rfl
  parameters := by
    obtain ⟨name, _ | ps⟩ := shape
    · exact nofun
    rintro _ ⟨⟩
    have hsource : Shape.text ⟨name, some ps⟩ = (name ++ ['[']) ++ listText ps ++ [']'] := by
      simp [Shape.text]
    have hlist := isLosslessList_placeAll (h.parameters ps rfl) hsource
    have hstart : Text.byteLength (name ++ ['[']) = 0 + Text.byteLength name + 1 := by
      simp [Char.utf8Size]
    have hstop : Text.byteLength (name ++ ['['] ++ listText ps) =
        (Span.ofLength (Text.byteLength name)
          (Text.byteLength ('[' :: (listText ps ++ [']'])))).stop - 1 := by
      have hopen : '['.utf8Size = 1 := rfl
      have hclose : ']'.utf8Size = 1 := rfl
      simp only [Text.byteLength_append, Text.byteLength_cons, Text.byteLength_nil, Span.ofLength]
      omega
    rw [hstop, hstart, ← brackets_place] at hlist
    exact hlist
  text := by
    obtain ⟨name, _ | ps⟩ := shape
    · exact String.toList_ofList
    · rw [Shape.text, listText_eq_intercalate,
        ← map_text_placeAll ps (0 + Text.byteLength name + 1)]
      simp [TypeExpr.text, Shape.place, piece]

/-- A text is parsed exactly if at most `maxNesting` brackets are open at once in it and it is an
expression. The tree that it is parsed as is the text with nothing left out. -/
theorem parse_isLossless (source : List Char) :
    ((∃ expr, parse 0 source = .ok expr) ↔ nestingDepth source ≤ maxNesting ∧ IsExpression source) ∧
      ∀ expr, parse 0 source = .ok expr → expr.IsLossless source := by
  simp only [parse_eq_ok_iff, read_eq_ok_iff, isExpression_iff]
  constructor
  · constructor
    · rintro ⟨_, hdepth, shape, hshape, htext, -⟩
      exact ⟨hdepth, shape, hshape, htext⟩
    · rintro ⟨hdepth, shape, hshape, htext⟩
      exact ⟨_, hdepth, shape, hshape, htext, rfl⟩
  · rintro _ ⟨-, shape, hshape, rfl, rfl⟩
    exact hshape.isLossless_place

end TypeExpr

end DatasetSchema
