import DatasetSchema.Proofs.TypeExpr.Parameters

/-!
# The grammar of field types

`TypeExpr.Denotes` says by a grammar which field type a text denotes: one rule for the plain kinds,
one for each kind with a parameter, and two for lists, with and without a flag. `FieldType.ofText`
accepts a text exactly if it does not nest too deeply and denotes a type, and gives that type.

The proof goes through the shape of the text. `ofKind` is described for each kind by the parameters
that a shape must have, and both directions follow from these descriptions: by induction on the
levels that are left, and by induction on the derivation.

## Main definitions

* `TypeExpr.Denotes`: the field type that a text denotes.

## Main results

* `FieldType.ofText_eq_ok_iff`: the texts that denote a type are exactly those that are accepted.
-/

namespace DatasetSchema.TypeExpr

/-- A value as the argument of a kind: alone, or after its key. -/
def IsArgument (key : String) (value argument : List Char) : Prop :=
  argument = value ∨ argument = key.toList ++ '=' :: value

/-- An argument that gives a format. Its value is not empty and balanced, and a value without a key
must not be mistaken for one with a key. -/
def IsFormatArgument (argument : List Char) (format : String) : Prop :=
  ∃ value, value ≠ [] ∧ Balanced false value ∧
    (argument = value ∧ ¬ StartsWithKey value ∨ argument = "fmt".toList ++ '=' :: value) ∧
    IsUnquoted value format.toList ∧ ¬ ('"' ∈ format.toList ∧ '\'' ∈ format.toList)

/-- The name of a kind with a text between brackets. -/
def bracketed (kind : FieldKind) (inner : List Char) : List Char :=
  kind.name.toList ++ '[' :: (inner ++ [']'])

/-- The field type that a text denotes. -/
inductive Denotes : List Char → FieldType → Prop
  | plain {kind : FieldKind} :
      kind.arity = .parameterless → Denotes kind.name.toList (.plain kind)
  | label {dom : String} {argument : List Char} :
      isIdentifier dom → IsArgument "dom" dom.toList argument →
      Denotes (bracketed .label argument) (.label dom)
  | date {format : String} {argument : List Char} :
      IsFormatArgument argument format → Denotes (bracketed .date argument) (.date format)
  | time {format : String} {argument : List Char} :
      IsFormatArgument argument format → Denotes (bracketed .time argument) (.time format)
  | list {type : FieldType} {element argument : List Char} :
      Denotes element type → IsArgument "etype" element argument →
      Denotes (bracketed .list argument) (.list type none)
  | flaggedList {type : FieldType} {flag : Bool}
      {element argument flagText flagArgument : List Char} :
      Denotes element type → IsArgument "etype" element argument →
      flagText.map Char.toLower = (toString flag).toList →
      IsArgument "ordered" flagText flagArgument →
      Denotes (bracketed .list (argument ++ ',' :: flagArgument)) (.list type (some flag))

/-! ## Arguments and parameters -/

variable {key name : String} {value argument : List Char} {start : Nat} {p : ParameterShape}
  {ps : List ParameterShape} {kind : FieldKind} {shape : Shape} {type : FieldType}

theorem ParameterShape.HasKey.isArgument (h : p.HasKey key) : IsArgument key p.value p.text := by
  obtain ⟨_ | k, value⟩ := p
  · exact .inl rfl
  · obtain rfl := h k rfl
    exact .inr rfl

/-- A value with or without its key is a parameter, unless it is mistaken for one with another
key. -/
theorem exists_parameter (hkey : IsName key.toList) (hne : value ≠ [])
    (hvalue : Balanced false value)
    (h : argument = value ∧ ¬ StartsWithKey value ∨ argument = key.toList ++ '=' :: value) :
    ∃ p : ParameterShape, p.WellFormed ∧ p.HasKey key ∧ p.text = argument ∧ p.value = value := by
  rcases h with ⟨rfl, hbare⟩ | rfl
  · exact ⟨⟨none, argument⟩, ⟨nofun, fun _ => hbare, hne, hvalue⟩, nofun, rfl, rfl⟩
  · refine ⟨⟨some key.toList, value⟩, ⟨?_, nofun, hne, hvalue⟩, ?_, rfl, rfl⟩
    · rintro _ ⟨⟩
      exact hkey
    · rintro _ ⟨⟩
      rfl

theorem IsArgument.bare_or_key (h : IsArgument key value argument)
    (hvalue : ¬ StartsWithKey value) :
    argument = value ∧ ¬ StartsWithKey value ∨ argument = key.toList ++ '=' :: value :=
  h.imp_left fun hargument => ⟨hargument, hvalue⟩

theorem not_startsWithKey_of_isName {name : List Char} (h : IsName name) :
    ¬ StartsWithKey name := by
  rintro ⟨key, value, -, rfl⟩
  have hequals := h.2 '=' (List.mem_append_right key List.mem_cons_self)
  exact (plain_of_isNameChar hequals).2 rfl

/-! ## Reading an expression and its kind -/

variable {levels : Nat} {source : List Char}

/-- An expression that does not nest too deeply has the type that its kind makes of its
parameters. -/
theorem denote_succ_eq_ok_iff :
    denote (levels + 1) start source = .ok type ↔
      nestingDepth source ≤ maxNesting ∧ ∃ (shape : Shape) (kind : FieldKind), shape.WellFormed ∧
        shape.text = source ∧
        shape.name = kind.name.toList ∧
        ofKind (fun element => denote levels element.span.start element.value.toList) kind
          (shape.place start) = .ok type := by
  rw [denote_succ, bind_eq_ok_iff]
  simp only [parse_eq_ok_iff, read_eq_ok_iff]
  constructor
  · rintro ⟨_, ⟨hdepth, shape, hshape, htext, rfl⟩, htype⟩
    rw [typeOf] at htype
    split at htype
    · contradiction
    · next kind hkind =>
      have hname : shape.name = kind.name.toList := by
        rw [ofName?_eq_some_iff.mp hkind]
        exact String.toList_ofList.symm
      exact ⟨hdepth, shape, kind, hshape, htext, hname, htype⟩
  · rintro ⟨hdepth, shape, kind, hshape, htext, hname, htype⟩
    refine ⟨_, ⟨hdepth, shape, hshape, htext, rfl⟩, ?_⟩
    have hkind : FieldKind.ofName? (shape.place start).name.value = some kind := by
      rw [ofName?_eq_some_iff, ← String.toList_inj, ← hname]
      exact String.toList_ofList.symm
    rw [typeOf, hkind]
    exact htype

/-! ## Soundness -/

theorem text_of_parameters (hname : shape.name = kind.name.toList)
    (hps : shape.parameters = some ps) :
    shape.text = bracketed kind (listText ps) := by
  obtain ⟨name, parameters⟩ := shape
  obtain rfl : name = kind.name.toList := hname
  obtain rfl : parameters = some ps := hps
  rfl

theorem listText_singleton : listText [p] = p.text :=
  List.append_nil p.text

theorem listText_pair {q : ParameterShape} : listText [p, q] = p.text ++ ',' :: q.text := by
  rw [listText_cons_cons, listText_singleton]

/-- A parameter of a date or a time gives a format. -/
theorem ParameterShape.WellFormed.isFormatArgument {s : String} (h : p.WellFormed)
    (hkey : p.HasKey "fmt") (hs : IsUnquoted p.value s.toList)
    (hquotes : ¬ ('"' ∈ s.toList ∧ '\'' ∈ s.toList)) :
    IsFormatArgument p.text s := by
  refine ⟨p.value, h.value_ne_nil, h.balanced_value, ?_, hs, hquotes⟩
  obtain ⟨_ | key, value⟩ := p
  · exact .inl ⟨rfl, h.not_startsWithKey rfl⟩
  · obtain rfl := hkey key rfl
    exact .inr rfl

/-- Only a text that denotes a type is given one, whatever the number of levels. -/
theorem denotes_of_denote (h : denote levels start source = .ok type) : Denotes source type := by
  induction levels generalizing start source type with
  | zero => contradiction
  | succ levels ih =>
    obtain ⟨-, shape, kind, hshape, rfl, hname, htype⟩ := denote_succ_eq_ok_iff.mp h
    -- One rule serves all plain kinds; the kinds with parameters have a rule each.
    by_cases hplain : kind.arity = .parameterless
    · obtain ⟨hps, rfl⟩ := (ofKind_plain_eq_ok_iff hplain).mp htype
      have htext : shape.text = kind.name.toList := by
        obtain ⟨name, parameters⟩ := shape
        obtain rfl : parameters = none := hps
        exact hname
      rw [htext]
      exact .plain hplain
    cases kind with
    | label =>
      obtain ⟨p, dom, hps, hkey, hdom, hvalue, rfl⟩ := ofKind_label_eq_ok_iff.mp htype
      rw [text_of_parameters hname hps, listText_singleton]
      exact .label hdom (hvalue ▸ hkey.isArgument)
    | date =>
      obtain ⟨p, s, hps, hkey, hs, hquotes, rfl⟩ := ofKind_date_eq_ok_iff.mp htype
      have hp := hshape.parameters _ hps p List.mem_cons_self
      rw [text_of_parameters hname hps, listText_singleton]
      exact .date (hp.isFormatArgument hkey hs hquotes)
    | time =>
      obtain ⟨p, s, hps, hkey, hs, hquotes, rfl⟩ := ofKind_time_eq_ok_iff.mp htype
      have hp := hshape.parameters _ hps p List.mem_cons_self
      rw [text_of_parameters hname hps, listText_singleton]
      exact .time (hp.isFormatArgument hkey hs hquotes)
    | list =>
      obtain ⟨p, element, hkey, helement, hlist⟩ := ofKind_list_eq_ok_iff.mp htype
      -- The element type is read from its own text, with one level less.
      have hdenotes : Denotes p.value element := by
        have hvalue := ih helement
        rwa [value_place] at hvalue
      rcases hlist with ⟨hps, rfl⟩ | ⟨q, flag, hps, hordered, hflag, rfl⟩
      · rw [text_of_parameters hname hps, listText_singleton]
        exact .list hdenotes hkey.isArgument
      · rw [text_of_parameters hname hps, listText_pair]
        exact .flaggedList hdenotes hkey.isArgument hflag hordered.isArgument
    | _ => exact absurd rfl hplain

/-! ## Completeness -/

theorem isName_kind (kind : FieldKind) : IsName kind.name.toList := by
  refine isName_of_isAlphanum ?_ ?_
  · cases kind <;> decide
  · cases kind <;> decide

theorem wellFormed_kind (h : ∀ p ∈ ps, p.WellFormed) :
    Shape.WellFormed ⟨kind.name.toList, some ps⟩ := by
  refine ⟨isName_kind kind, ?_⟩
  rintro _ ⟨⟩
  exact h

theorem text_kind : Shape.text ⟨kind.name.toList, some ps⟩ = bracketed kind (listText ps) := rfl

theorem ne_nil_of_wellFormed (h : shape.WellFormed) : shape.text ≠ [] := by
  obtain ⟨name, _ | ps⟩ := shape
  · exact h.isName_name.1
  · exact List.append_ne_nil_of_left_ne_nil h.isName_name.1 _

/-- The value of a parameter nests less deeply than the expression. -/
theorem nestingDepth_value_lt (h : ∀ q ∈ p :: ps, q.WellFormed) :
    nestingDepth p.value < nestingDepth (bracketed kind (listText (p :: ps))) := by
  rw [← text_kind, (wellFormed_kind h).nestingDepth_text,
    nestingDepth_listText_cons (h p List.mem_cons_self)]
  omega

/-- An argument that gives a format is a parameter of a date or a time. -/
theorem IsFormatArgument.exists_parameter {s : String} (h : IsFormatArgument argument s) :
    ∃ p : ParameterShape, p.WellFormed ∧ p.HasKey "fmt" ∧ p.text = argument ∧
      IsUnquoted p.value s.toList ∧ ¬ ('"' ∈ s.toList ∧ '\'' ∈ s.toList) := by
  obtain ⟨value, hne, hvalue, hargument, hs, hquotes⟩ := h
  obtain ⟨p, hp, hkey, htext, rfl⟩ := TypeExpr.exists_parameter (by decide) hne hvalue hargument
  exact ⟨p, hp, hkey, htext, hs, hquotes⟩

/-- A well-formed expression is a parameter of a list, with or without the key of element types. -/
theorem IsArgument.exists_parameter (h : IsArgument key shape.text argument)
    (hkey : IsName key.toList) (hshape : shape.WellFormed) :
    ∃ p : ParameterShape, p.WellFormed ∧ p.HasKey key ∧ p.text = argument ∧ p.value = shape.text :=
  TypeExpr.exists_parameter hkey (ne_nil_of_wellFormed hshape) hshape.balanced_text
    (h.bare_or_key hshape.not_startsWithKey)

/-- A name is a parameter, with or without a key. -/
theorem IsArgument.exists_parameter_of_isName (h : IsArgument key value argument)
    (hkey : IsName key.toList) (hvalue : IsName value) :
    ∃ p : ParameterShape, p.WellFormed ∧ p.HasKey key ∧ p.text = argument ∧ p.value = value :=
  TypeExpr.exists_parameter hkey hvalue.1 (balanced_of_isName hvalue)
    (h.bare_or_key (not_startsWithKey_of_isName hvalue))

/-- A text that is a flag but for the case of its letters is a name. -/
theorem isName_of_map_toLower {flag : Bool} (h : value.map Char.toLower = (toString flag).toList) :
    IsName value := by
  have hflag : (toString flag).toList.all Char.isAlpha := by cases flag <;> decide
  refine isName_of_isAlpha_toLower ?_ ?_
  · rintro rfl
    cases flag <;> contradiction
  · intro c hc
    exact List.all_eq_true.mp hflag _ (h ▸ List.mem_map_of_mem hc)

/-- The text has a shape, and the kind of the shape makes the type of its parameters if there are as
many levels as the text nests deep. -/
def HasMeaning (source : List Char) (type : FieldType) : Prop :=
  ∃ (shape : Shape) (kind : FieldKind), shape.WellFormed ∧ shape.text = source ∧
    shape.name = kind.name.toList ∧
    ∀ levels start, nestingDepth source ≤ maxNesting → nestingDepth source ≤ levels →
      ofKind (fun element => denote levels element.span.start element.value.toList) kind
        (shape.place start) = .ok type

theorem HasMeaning.denote_eq_ok (h : HasMeaning source type)
    (hmax : nestingDepth source ≤ maxNesting) (hlevels : nestingDepth source < levels) :
    denote levels start source = .ok type := by
  obtain ⟨shape, kind, hshape, rfl, hname, htype⟩ := h
  cases levels with
  -- No text nests less deeply than zero brackets.
  | zero => omega
  | succ levels =>
    have hmeaning := htype levels start hmax (by omega)
    exact denote_succ_eq_ok_iff.mpr ⟨hmax, shape, kind, hshape, rfl, hname, hmeaning⟩

/-- The element type of a list is found, since it nests less deeply than the list. -/
theorem HasMeaning.denote_value (h : HasMeaning p.value type) (hps : ∀ q ∈ p :: ps, q.WellFormed)
    (hmax : nestingDepth (bracketed kind (listText (p :: ps))) ≤ maxNesting)
    (hlevels : nestingDepth (bracketed kind (listText (p :: ps))) ≤ levels) :
    denote levels (p.place start).value.span.start (p.place start).value.value.toList =
      .ok type := by
  have hlt : nestingDepth p.value < nestingDepth (bracketed kind (listText (p :: ps))) :=
    nestingDepth_value_lt hps
  rw [value_place]
  exact h.denote_eq_ok (by omega) (by omega)

/-- The name of a kind with parameters between brackets has the meaning that the kind gives to
them. -/
theorem hasMeaning_bracketed (hps : ∀ p ∈ ps, p.WellFormed)
    (h : ∀ levels start, nestingDepth (bracketed kind (listText ps)) ≤ maxNesting →
      nestingDepth (bracketed kind (listText ps)) ≤ levels →
      ofKind (fun element => denote levels element.span.start element.value.toList) kind
        (Shape.place start ⟨kind.name.toList, some ps⟩) = .ok type) :
    HasMeaning (bracketed kind (listText ps)) type :=
  ⟨⟨kind.name.toList, some ps⟩, kind, wellFormed_kind hps, text_kind, rfl, h⟩

/-- A text that denotes a type has a shape with that meaning. -/
theorem Denotes.hasMeaning (h : Denotes source type) : HasMeaning source type := by
  induction h with
  | @plain kind hkind =>
    refine ⟨⟨kind.name.toList, none⟩, kind, ⟨isName_kind kind, nofun⟩, rfl, rfl, ?_⟩
    intro levels start _ _
    exact (ofKind_plain_eq_ok_iff hkind).mpr ⟨rfl, rfl⟩
  | @label dom argument hdom hargument =>
    obtain ⟨p, hp, hkey, rfl, hvalue⟩ :=
      hargument.exists_parameter_of_isName (by decide) (isName_of_isIdentifier hdom)
    rw [← listText_singleton]
    refine hasMeaning_bracketed (List.forall_mem_singleton.mpr hp) ?_
    intro levels start _ _
    exact ofKind_label_eq_ok_iff.mpr ⟨p, dom, rfl, hkey, hdom, hvalue, rfl⟩
  | @date s argument hargument =>
    obtain ⟨p, hp, hkey, rfl, hs, hquotes⟩ := hargument.exists_parameter
    rw [← listText_singleton]
    refine hasMeaning_bracketed (List.forall_mem_singleton.mpr hp) ?_
    intro levels start _ _
    exact ofKind_date_eq_ok_iff.mpr ⟨p, s, rfl, hkey, hs, hquotes, rfl⟩
  | @time s argument hargument =>
    obtain ⟨p, hp, hkey, rfl, hs, hquotes⟩ := hargument.exists_parameter
    rw [← listText_singleton]
    refine hasMeaning_bracketed (List.forall_mem_singleton.mpr hp) ?_
    intro levels start _ _
    exact ofKind_time_eq_ok_iff.mpr ⟨p, s, rfl, hkey, hs, hquotes, rfl⟩
  | @list type element argument _ hargument ih =>
    have hmeaning := ih
    obtain ⟨shape, -, hshape, rfl, -⟩ := ih
    -- The element type is an expression with a shape, so it is a value that is not
    -- mistaken for a key.
    obtain ⟨p, hp, hkey, rfl, hvalue⟩ := hargument.exists_parameter (by decide) hshape
    rw [← hvalue] at hmeaning
    have hps : ∀ q ∈ [p], q.WellFormed := List.forall_mem_singleton.mpr hp
    rw [← listText_singleton]
    refine hasMeaning_bracketed hps ?_
    intro levels start hmax hlevels
    exact ofKind_list_eq_ok_iff.mpr
      ⟨p, type, hkey, hmeaning.denote_value hps hmax hlevels, .inl ⟨rfl, rfl⟩⟩
  | @flaggedList type flag element argument flagText flagArgument _ hargument hflag
      hflagArgument ih =>
    have hmeaning := ih
    obtain ⟨shape, -, hshape, rfl, -⟩ := ih
    obtain ⟨p, hp, hkey, rfl, hvalue⟩ := hargument.exists_parameter (by decide) hshape
    -- A flag is a name in any case of its letters, and so is not mistaken for a key either.
    obtain ⟨q, hq, hordered, rfl, rfl⟩ :=
      hflagArgument.exists_parameter_of_isName (by decide) (isName_of_map_toLower hflag)
    rw [← hvalue] at hmeaning
    have hps : ∀ r ∈ [p, q], r.WellFormed :=
      List.forall_mem_cons.mpr ⟨hp, List.forall_mem_singleton.mpr hq⟩
    rw [← listText_pair]
    refine hasMeaning_bracketed hps ?_
    intro levels start hmax hlevels
    exact ofKind_list_eq_ok_iff.mpr
      ⟨p, type, hkey, hmeaning.denote_value hps hmax hlevels,
        .inr ⟨q, flag, rfl, hordered, hflag, rfl⟩⟩

/-- A text denotes a type exactly if the type is found, given that the text does not nest too deeply
and there are more levels than it nests deep. -/
theorem denote_eq_ok_iff (hmax : nestingDepth source ≤ maxNesting)
    (hlevels : nestingDepth source < levels) :
    denote levels start source = .ok type ↔ Denotes source type :=
  ⟨denotes_of_denote, fun h => h.hasMeaning.denote_eq_ok hmax hlevels⟩

end DatasetSchema.TypeExpr

namespace DatasetSchema.FieldType

open TypeExpr

/-- A text is accepted if it stands for a type. Otherwise the diagnostic says why it does not. -/
theorem ofText_eq_ok_iff_denotedBy {source : String} {type : FieldType} :
    ofText source = .ok type ↔ denotedBy source = .ok type := by
  rw [ofText, mapError_eq_ok_iff]

/-- A text stands for a type if it does not nest too deeply and denotes the type. -/
theorem denotedBy_eq_ok_iff {source : String} {type : FieldType} :
    denotedBy source = .ok type ↔
      nestingDepth source.toList ≤ maxNesting ∧ Denotes source.toList type := by
  rw [denotedBy]
  constructor
  · intro h
    exact ⟨(denote_succ_eq_ok_iff.mp h).1, denotes_of_denote h⟩
  · rintro ⟨hmax, h⟩
    -- The text is read with one level more than brackets may be open.
    exact (denote_eq_ok_iff hmax (Nat.lt_succ_of_le hmax)).mpr h

/-- A text is accepted exactly if it does not nest too deeply and denotes a type, which is
the one that is given. -/
theorem ofText_eq_ok_iff (source : String) (type : FieldType) :
    ofText source = .ok type ↔
      nestingDepth source.toList ≤ maxNesting ∧ Denotes source.toList type := by
  rw [ofText_eq_ok_iff_denotedBy, denotedBy_eq_ok_iff]

end DatasetSchema.FieldType
