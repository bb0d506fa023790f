import DatasetSchema.Proofs.TypeExpr.Shape
import DatasetSchema.TypeExpr.Denotation

/-!
# What the parameters of a kind mean

For each reader of parameters, the parameters that it accepts and what it makes of them. A caller
needs these statements only and never looks into a reader.

## Main results

* `TypeExpr.onlyValue_eq_ok_iff`: one parameter, without a key or with the key of its kind;
* `TypeExpr.format_eq_ok_iff`: a format is a value without the quotes around it;
* `TypeExpr.listParameters_eq_ok_iff`, `TypeExpr.ordered_eq_ok_iff`: the parameters of a list.
-/

namespace DatasetSchema.TypeExpr

/-! ## Kinds -/

/-- A name belongs to one kind only. -/
theorem ofName?_eq_some_iff {s : String} {kind : FieldKind} :
    FieldKind.ofName? s = some kind ↔ kind.name = s := by
  constructor
  · intro h
    simpa using List.find?_some h
  · rintro rfl
    cases kind <;> decide

/-! ## One parameter -/

variable {kind : FieldKind} {name : String} {expr : TypeExpr} {parameter : TypeParameter}

theorem checkKey_eq_ok_iff :
    checkKey kind name parameter = .ok () ↔ ∀ key ∈ parameter.key, key.value = name := by
  rw [checkKey]
  split
  · next key hkey => simp [hkey]
  · next hkey => simp [hkey]

theorem onlyParameter_eq_ok_iff {brackets : Span} {parameters : List TypeParameter} :
    onlyParameter kind name brackets parameters = .ok parameter ↔
      parameters = [parameter] ∧ ∀ key ∈ parameter.key, key.value = name := by
  match parameters with
  | [] => exact ⟨nofun, nofun⟩
  | [only] =>
    rw [onlyParameter, bind_eq_ok_iff]
    constructor
    · rintro ⟨_, hkey, ⟨⟩⟩
      exact ⟨rfl, checkKey_eq_ok_iff.mp hkey⟩
    · rintro ⟨⟨⟩, hkey⟩
      exact ⟨(), checkKey_eq_ok_iff.mpr hkey, rfl⟩
  | first :: second :: others =>
    simp only [onlyParameter, bind_eq_ok_iff, reduceCtorEq, and_false, exists_false, false_iff]
    rintro ⟨⟨⟩, -⟩

theorem requiredParameters_eq_ok_iff {parameters : Spanned (List TypeParameter)} :
    requiredParameters kind expr = .ok parameters ↔ expr.parameters = some parameters := by
  rw [requiredParameters]
  split
  · next _ h => rw [h, Except.ok.injEq, Option.some.injEq]
  · next h => simp [h]

/-- A kind with one parameter takes it without a key or with its own. -/
theorem onlyValue_eq_ok_iff {value : Spanned String} :
    onlyValue kind name expr = .ok value ↔
      ∃ brackets parameter, expr.parameters = some ⟨[parameter], brackets⟩ ∧
        (∀ key ∈ parameter.key, key.value = name) ∧ parameter.value = value := by
  simp only [onlyValue, bind_eq_ok_iff, requiredParameters_eq_ok_iff, onlyParameter_eq_ok_iff]
  constructor
  · rintro ⟨⟨parameters, brackets⟩, hparameters, parameter, ⟨rfl, hkey⟩, ⟨⟩⟩
    exact ⟨brackets, parameter, hparameters, hkey, rfl⟩
  · rintro ⟨brackets, parameter, hparameters, hkey, rfl⟩
    exact ⟨⟨[parameter], brackets⟩, hparameters, parameter, ⟨rfl, hkey⟩, rfl⟩

theorem domain_eq_ok_iff {value : Spanned String} {dom : String} :
    domain value = .ok dom ↔ isIdentifier dom ∧ value.value = dom := by
  rw [domain]
  split
  · next h =>
    rw [Except.ok.injEq]
    constructor
    · rintro rfl
      exact ⟨h, rfl⟩
    · exact And.right
  · next h =>
    constructor
    · exact nofun
    · rintro ⟨hdom, rfl⟩
      exact absurd hdom h

/-! ## Formats -/

variable {value text : List Char} {quote : Char}

/-- The value is the text between two equal quotes. -/
def IsQuoted (value text : List Char) : Prop :=
  ∃ quote, IsQuote quote ∧ value = quote :: (text ++ [quote])

/-- The text is the value without its first and its last character if these are the same quote, and
the value itself otherwise. -/
def IsUnquoted (value text : List Char) : Prop :=
  IsQuoted value text ∨ (∀ inner, ¬ IsQuoted value inner) ∧ text = value

theorem stripQuotes?_eq_some_iff :
    stripQuotes? quote value = some text ↔ value = quote :: (text ++ [quote]) := by
  cases value with
  | nil => exact ⟨nofun, nofun⟩
  | cons c cs =>
    rw [stripQuotes?, Option.ite_none_right_eq_some, Bool.and_eq_true, beq_iff_eq, beq_iff_eq,
      Option.some.injEq, List.cons.injEq]
    constructor
    · rintro ⟨⟨hc, hlast⟩, rfl⟩
      exact ⟨hc, (List.dropLast_append_getLast? quote hlast).symm⟩
    · rintro ⟨hc, rfl⟩
      exact ⟨⟨hc, List.getLast?_concat⟩, List.dropLast_concat⟩

theorem isQuoted_iff :
    IsQuoted value text ↔
      stripQuotes? '"' value = some text ∨ stripQuotes? '\'' value = some text := by
  rw [stripQuotes?_eq_some_iff, stripQuotes?_eq_some_iff]
  constructor
  · rintro ⟨_, rfl | rfl, hvalue⟩
    · exact .inl hvalue
    · exact .inr hvalue
  · rintro (hvalue | hvalue)
    · exact ⟨'"', .inl rfl, hvalue⟩
    · exact ⟨'\'', .inr rfl, hvalue⟩

theorem isUnquoted_iff : IsUnquoted value text ↔ unquote value = text := by
  simp only [IsUnquoted, isQuoted_iff, not_or, unquote]
  cases hdouble : stripQuotes? '"' value with
  | some inner =>
    -- A value does not begin with both quotes.
    have hsingle : stripQuotes? '\'' value = none := by
      rw [Option.eq_none_iff_forall_ne_some]
      intro other hother
      rw [stripQuotes?_eq_some_iff] at hdouble hother
      rw [hdouble] at hother
      injection hother with hquote
      contradiction
    simp [hsingle]
  | none =>
    cases hsingle : stripQuotes? '\'' value with
    | some inner => simp
    | none => simp [eq_comm]

/-- A format is what a value is without the quotes around it, unless it has both kinds of quotes. -/
theorem format_eq_ok_iff {value : Spanned String} {s : String} :
    format kind value = .ok s ↔
      IsUnquoted value.value.toList s.toList ∧ ¬ ('"' ∈ s.toList ∧ '\'' ∈ s.toList) := by
  rw [format, isUnquoted_iff]
  generalize unquote value.value.toList = text
  have hs : String.ofList text = s ↔ text = s.toList := by
    rw [← String.toList_inj, String.toList_ofList]
  simp only [Bool.and_eq_true, List.contains_iff_mem]
  split
  · next hboth =>
    constructor
    · exact nofun
    · rintro ⟨rfl, hquotes⟩
      exact absurd hboth hquotes
  · next hboth =>
    rw [Except.ok.injEq, hs]
    constructor
    · rintro rfl
      exact ⟨rfl, hboth⟩
    · exact And.left

/-! ## Lists -/

/-- A flag may be written in any case of ASCII letters. -/
theorem flag?_eq_some_iff {s : String} {flag : Bool} :
    flag? s = some flag ↔ s.toList.map Char.toLower = (toString flag).toList := by
  rw [flag?]
  generalize s.toList.map Char.toLower = lower
  by_cases htrue : lower = "true".toList
  · subst htrue
    cases flag <;> decide
  by_cases hfalse : lower = "false".toList
  · subst hfalse
    cases flag <;> decide
  · cases flag with
    | false =>
      show _ ↔ lower = "false".toList
      simp_all
    | true =>
      show _ ↔ lower = "true".toList
      simp_all

theorem checkFlagKey_eq_ok_iff :
    checkFlagKey parameter = .ok () ↔ ∀ key ∈ parameter.key, key.value = "ordered" := by
  rw [checkFlagKey]
  split
  · next key hkey =>
    by_cases hordered : key.value = "ordered"
    · simp [hkey, hordered]
    · simp only [hkey, hordered, beq_iff_eq, if_false, Option.mem_def, Option.some.injEq,
        forall_eq', iff_false]
      split
      · exact nofun
      · exact nofun
  · next hkey => simp [hkey]

/-- The second parameter of a list is a flag without a key or with its own. -/
theorem ordered_eq_ok_iff {flag : Bool} :
    ordered parameter = .ok flag ↔
      (∀ key ∈ parameter.key, key.value = "ordered") ∧
        parameter.value.value.toList.map Char.toLower = (toString flag).toList := by
  rw [← checkFlagKey_eq_ok_iff, ← flag?_eq_some_iff, ordered, bind_eq_ok_iff]
  constructor
  · rintro ⟨_, hkey, hvalue⟩
    refine ⟨hkey, ?_⟩
    split at hvalue
    · next b hflag =>
      rw [hflag, Except.ok.inj hvalue]
    · contradiction
  · rintro ⟨hkey, hvalue⟩
    refine ⟨(), hkey, ?_⟩
    rw [hvalue]
    rfl

/-- A list has an element type, without a key or with its own, and at most one other parameter. -/
theorem listParameters_eq_ok_iff {brackets : Span} {parameters : List TypeParameter}
    {element : Spanned String} {flag : Option TypeParameter} :
    listParameters brackets parameters = .ok (element, flag) ↔
      ∃ first, parameters = first :: flag.toList ∧ (∀ key ∈ first.key, key.value = "etype") ∧
        first.value = element := by
  -- With one or two parameters, the first one decides; the second is passed on as it is.
  have hfirst : ∀ (first : TypeParameter) (rest : Option TypeParameter),
      listParameters brackets (first :: rest.toList) = .ok (element, flag) ↔
        (∀ key ∈ first.key, key.value = "etype") ∧ first.value = element ∧ rest = flag := by
    intro first rest
    have hread : listParameters brackets (first :: rest.toList) =
        first.key.elim (.ok (first.value, rest)) fun key =>
          if key.value == "etype" then .ok (first.value, rest)
          else .error (.elementNotFirst key.span) := by
      cases rest <;> cases hkey : first.key <;> simp [listParameters, hkey]
    rw [hread]
    cases hkey : first.key with
    | none => simp
    | some key =>
      by_cases hetype : key.value = "etype"
      · simp [hetype]
      · simp [hetype]
  constructor
  · intro h
    obtain _ | ⟨first, _ | ⟨second, _ | ⟨third, rest⟩⟩⟩ := parameters
    · contradiction
    · obtain ⟨hkey, helement, rfl⟩ := (hfirst first none).mp h
      exact ⟨first, rfl, hkey, helement⟩
    · obtain ⟨hkey, helement, rfl⟩ := (hfirst first (some second)).mp h
      exact ⟨first, rfl, hkey, helement⟩
    · contradiction
  · rintro ⟨first, rfl, hkey, helement⟩
    exact (hfirst first flag).mpr ⟨hkey, helement, rfl⟩

/-! ## The parameters of a shape -/

/-- The parameter has the key, if it has one. -/
def ParameterShape.HasKey (p : ParameterShape) (key : String) : Prop :=
  ∀ k ∈ p.key, k = key.toList

variable {key : String} {start : Nat} {p : ParameterShape} {ps : List ParameterShape}
  {shape : Shape}

theorem hasKey_place_iff : (∀ k ∈ (p.place start).key, k.value = key) ↔ p.HasKey key := by
  obtain ⟨_ | k, value⟩ := p
  · exact ⟨nofun, nofun⟩
  · simp only [ParameterShape.place, ParameterShape.HasKey, Option.map_some, Option.mem_def,
      Option.some.injEq, forall_eq', piece]
    rw [← String.toList_inj, String.toList_ofList]

theorem value_place : (p.place start).value.value.toList = p.value :=
  String.toList_ofList

theorem placeAll_eq_nil_iff : placeAll start ps = [] ↔ ps = [] := by
  cases ps with
  | nil => exact ⟨fun _ => rfl, fun _ => rfl⟩
  | cons p ps => exact ⟨nofun, nofun⟩

theorem placeAll_eq_cons_iff {parameter : TypeParameter} {parameters : List TypeParameter} :
    placeAll start ps = parameter :: parameters ↔
      ∃ p others, ps = p :: others ∧ p.place start = parameter ∧
        placeAll (start + Text.byteLength p.text + 1) others = parameters := by
  cases ps with
  | nil => exact ⟨nofun, nofun⟩
  | cons p ps =>
    rw [placeAll, List.cons.injEq]
    constructor
    · rintro ⟨hp, hps⟩
      exact ⟨p, ps, rfl, hp, hps⟩
    · rintro ⟨_, _, ⟨⟩, hp, hps⟩
      exact ⟨hp, hps⟩

/-- The place where the parameters of a shape begin. -/
def Shape.listStart (start : Nat) (shape : Shape) : Nat :=
  start + Text.byteLength shape.name + 1

theorem parameters_place {brackets : Span} {parameters : List TypeParameter}
    (h : (shape.place start).parameters = some ⟨parameters, brackets⟩) :
    ∃ ps, shape.parameters = some ps ∧ placeAll (shape.listStart start) ps = parameters := by
  obtain ⟨name, _ | ps⟩ := shape
  · contradiction
  · injection h with h
    injection h with h
    exact ⟨ps, rfl, h⟩

theorem exists_parameters_place (start : Nat) (h : shape.parameters = some ps) :
    ∃ brackets, (shape.place start).parameters =
      some ⟨placeAll (shape.listStart start) ps, brackets⟩ := by
  obtain ⟨name, parameters⟩ := shape
  obtain rfl : parameters = some ps := h
  exact ⟨_, rfl⟩

/-- The one parameter of a shape at its place. -/
theorem onlyValue_place_eq_ok_iff {value : Spanned String} :
    onlyValue kind name (shape.place start) = .ok value ↔
      ∃ p, shape.parameters = some [p] ∧ p.HasKey name ∧
        (p.place (shape.listStart start)).value = value := by
  rw [onlyValue_eq_ok_iff]
  constructor
  · rintro ⟨brackets, parameter, hparameters, hkey, rfl⟩
    obtain ⟨ps, hps, hplace⟩ := parameters_place hparameters
    obtain ⟨p, others, rfl, rfl, hothers⟩ := placeAll_eq_cons_iff.mp hplace
    obtain rfl := placeAll_eq_nil_iff.mp hothers
    exact ⟨p, hps, hasKey_place_iff.mp hkey, rfl⟩
  · rintro ⟨p, hps, hkey, rfl⟩
    obtain ⟨brackets, hparameters⟩ := exists_parameters_place start hps
    exact ⟨brackets, _, hparameters, hasKey_place_iff.mpr hkey, rfl⟩

/-! ## The type of a kind -/

variable {type : FieldType} {denoteElement : Spanned String → Except Fault FieldType}

/-- A plain kind has no brackets. -/
theorem ofKind_plain_eq_ok_iff (h : kind.arity = .parameterless) :
    ofKind denoteElement kind (shape.place start) = .ok type ↔
      shape.parameters = none ∧ type = .plain kind := by
  -- The plain kinds share one branch.
  obtain ⟨name, _ | ps⟩ := shape
  · have hread : ofKind denoteElement kind (Shape.place start ⟨name, none⟩) =
        .ok (.plain kind) := by
      cases kind <;> first | rfl | contradiction
    simp [hread, eq_comm]
  · have hread : ∃ fault, ofKind denoteElement kind (Shape.place start ⟨name, some ps⟩) =
        .error fault := by
      cases kind <;> first | exact ⟨_, rfl⟩ | contradiction
    obtain ⟨fault, hfault⟩ := hread
    simp [hfault]

/-- A label has one parameter, which is an identifier. -/
theorem ofKind_label_eq_ok_iff :
    ofKind denoteElement .label (shape.place start) = .ok type ↔
      ∃ p dom, shape.parameters = some [p] ∧ p.HasKey "dom" ∧ isIdentifier dom ∧
        p.value = dom.toList ∧ type = .label dom := by
  simp only [ofKind, bind_eq_ok_iff, onlyValue_place_eq_ok_iff, domain_eq_ok_iff]
  constructor
  · rintro ⟨_, ⟨p, hps, hkey, rfl⟩, dom, ⟨hdom, rfl⟩, ⟨⟩⟩
    exact ⟨p, _, hps, hkey, hdom, value_place.symm, rfl⟩
  · rintro ⟨p, dom, hps, hkey, hdom, hvalue, rfl⟩
    refine ⟨_, ⟨p, hps, hkey, rfl⟩, dom, ⟨hdom, ?_⟩, rfl⟩
    rw [← String.toList_inj, value_place, hvalue]

/-- A kind with a format has one parameter, which gives the format. -/
theorem ofFormat_eq_ok_iff (kind : FieldKind) (make : String → FieldType) :
    (do
      let value ← onlyValue kind "fmt" (shape.place start)
      return make (← format kind value)) = .ok type ↔
      ∃ p s, shape.parameters = some [p] ∧ p.HasKey "fmt" ∧ IsUnquoted p.value s.toList ∧
        ¬ ('"' ∈ s.toList ∧ '\'' ∈ s.toList) ∧ type = make s := by
  simp only [bind_eq_ok_iff, onlyValue_place_eq_ok_iff, format_eq_ok_iff]
  constructor
  · rintro ⟨_, ⟨p, hps, hkey, rfl⟩, s, ⟨hs, hquotes⟩, ⟨⟩⟩
    rw [value_place] at hs
    exact ⟨p, s, hps, hkey, hs, hquotes, rfl⟩
  · rintro ⟨p, s, hps, hkey, hs, hquotes, rfl⟩
    rw [← value_place] at hs
    exact ⟨_, ⟨p, hps, hkey, rfl⟩, s, ⟨hs, hquotes⟩, rfl⟩

theorem ofKind_date_eq_ok_iff :
    ofKind denoteElement .date (shape.place start) = .ok type ↔
      ∃ p s, shape.parameters = some [p] ∧ p.HasKey "fmt" ∧ IsUnquoted p.value s.toList ∧
        ¬ ('"' ∈ s.toList ∧ '\'' ∈ s.toList) ∧ type = .date s :=
  ofFormat_eq_ok_iff .date .date

theorem ofKind_time_eq_ok_iff :
    ofKind denoteElement .time (shape.place start) = .ok type ↔
      ∃ p s, shape.parameters = some [p] ∧ p.HasKey "fmt" ∧ IsUnquoted p.value s.toList ∧
        ¬ ('"' ∈ s.toList ∧ '\'' ∈ s.toList) ∧ type = .time s :=
  ofFormat_eq_ok_iff .time .time

/-- A list has an element type and perhaps a flag. -/
theorem ofKind_list_eq_ok_iff :
    ofKind denoteElement .list (shape.place start) = .ok type ↔
      ∃ p element, p.HasKey "etype" ∧
        denoteElement (p.place (shape.listStart start)).value = .ok element ∧
        (shape.parameters = some [p] ∧ type = .list element none ∨
          ∃ q flag, shape.parameters = some [p, q] ∧ q.HasKey "ordered" ∧
            q.value.map Char.toLower = (toString flag).toList ∧
              type = .list element (some flag)) := by
  simp only [ofKind, bind_eq_ok_iff, requiredParameters_eq_ok_iff]
  constructor
  · rintro
      ⟨⟨parameters, brackets⟩, hparameters, ⟨element, flag⟩, hread, elementType, helement, hflag⟩
    obtain ⟨ps, hps, hplace⟩ := parameters_place hparameters
    obtain ⟨first, rfl, hkey, rfl⟩ := listParameters_eq_ok_iff.mp hread
    obtain ⟨p, others, rfl, rfl, hothers⟩ := placeAll_eq_cons_iff.mp hplace
    refine ⟨p, elementType, hasKey_place_iff.mp hkey, helement, ?_⟩
    -- The parameters are placed one behind the other, so their places give back their shapes.
    cases flag with
    | none =>
      obtain rfl := placeAll_eq_nil_iff.mp hothers
      exact .inl ⟨hps, (Except.ok.inj hflag).symm⟩
    | some second =>
      obtain ⟨q, later, rfl, rfl, hlater⟩ := placeAll_eq_cons_iff.mp hothers
      obtain rfl := placeAll_eq_nil_iff.mp hlater
      obtain ⟨b, hb, hflag⟩ := bind_eq_ok_iff.mp hflag
      obtain ⟨hordered, htext⟩ := ordered_eq_ok_iff.mp hb
      rw [value_place] at htext
      exact .inr ⟨q, b, hps, hasKey_place_iff.mp hordered, htext, (Except.ok.inj hflag).symm⟩
  · rintro ⟨p, elementType, hkey, helement, ⟨hps, rfl⟩ | ⟨q, flag, hps, hordered, htext, rfl⟩⟩
    · obtain ⟨brackets, hparameters⟩ := exists_parameters_place start hps
      refine ⟨_, hparameters, ⟨_, none⟩, ?_, elementType, helement, rfl⟩
      exact listParameters_eq_ok_iff.mpr ⟨_, rfl, hasKey_place_iff.mpr hkey, rfl⟩
    · obtain ⟨brackets, hparameters⟩ := exists_parameters_place start hps
      let second := q.place (shape.listStart start + Text.byteLength p.text + 1)
      refine ⟨_, hparameters, ⟨_, some second⟩, ?_, elementType, helement, ?_⟩
      · exact listParameters_eq_ok_iff.mpr ⟨_, rfl, hasKey_place_iff.mpr hkey, rfl⟩
      · refine bind_eq_ok_iff.mpr ⟨flag, ?_, rfl⟩
        rw [ordered_eq_ok_iff, value_place]
        exact ⟨hasKey_place_iff.mpr hordered, htext⟩

end DatasetSchema.TypeExpr
