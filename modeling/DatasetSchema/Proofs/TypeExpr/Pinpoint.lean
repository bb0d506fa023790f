import DatasetSchema.Proofs.TypeExpr.OpenBracket
import DatasetSchema.Proofs.TypeExpr.Parameters
import DatasetSchema.Proofs.TypeExpr.Stopping

/-!
# What the labels of a type fault mark

A text that denotes no field type is refused with a diagnostic on this text. Its labels mark slices
of the text, also if the fault lies in the element type of a list, which is read as an expression of
its own. The first label marks what the diagnostic is about: the name, value or character that it
quotes is what stands there.

## Main definitions

* `TypeExpr.Fault.StandsIn`: a fault whose places are slices of a text and which
  quotes what stands there;
* `TypeExpr.Pinpoints`: what a diagnostic says about the part of the text under its first label.

## Main results

* `TypeExpr.standsIn_of_denote`: a fault at any depth of lists stands in the whole text;
* `FieldType.ofText_error_pinpoints`: the labels of the diagnostic for a text that denotes no type.
-/

namespace DatasetSchema

namespace TypeExpr

/-! ## Faults in a text -/

/-- The part stands under the span, and directly before it stands `front`. -/
def StandsBehind (source front : List Char) (span : Span) (part : List Char) : Prop :=
  ∃ before after, source = before ++ front ++ part ++ after ∧
    Text.byteLength (before ++ front) = span.start ∧
      Text.byteLength (before ++ front ++ part) = span.stop

theorem StandsBehind.standsAt {source front part : List Char} {span : Span}
    (h : StandsBehind source front span part) : StandsAt source span part := by
  obtain ⟨before, after, hsource, hstart, hstop⟩ := h
  exact ⟨before ++ front, after, hsource, hstart, hstop⟩

/-- The span is that of a slice, whatever stands there. -/
def IsSlice (source : List Char) (span : Span) : Prop :=
  ∃ part, StandsAt source span part

/-- A list of parameters with its brackets. -/
def IsBracketed (part : List Char) : Prop :=
  ∃ inner, Balanced true inner ∧ part = '[' :: (inner ++ [']'])

/-- The fault tells places of the text, and what it quotes stands at these places. -/
def Fault.StandsIn (source : List Char) : Fault → Prop
  | .nestedTooDeeply offset => StandsAt source (Span.ofLength offset 1) ['[']
  | .malformed _ place => StandsAt source (unexpectedSpan place) place.found.toList
  | .unknownType name => StandsAt source name.span name.value.toList
  | .unexpectedParameters kind brackets =>
    kind.arity = .parameterless ∧
      ∃ part, IsBracketed part ∧ StandsBehind source kind.name.toList brackets part
  | .missingParameters _ span => IsSlice source span
  | .unknownParameter _ key => StandsAt source key.span key.value.toList
  | .duplicateParameter _ _ again first =>
    IsSlice source again ∧ ∀ span ∈ first, IsSlice source span
  | .invalidDomain domain => StandsAt source domain.span domain.value.toList
  | .mixedQuotes _ format => IsSlice source format
  | .tooManyParameters _ third => IsSlice source third
  | .elementNotFirst key => IsSlice source key
  | .invalidFlag value => StandsAt source value.span value.value.toList

/-- The parts of an expression are slices of a text, and its brackets stand directly behind its
name. -/
structure StandsIn (source : List Char) (expr : TypeExpr) : Prop where
  /-- The name is a slice. -/
  name : StandsAt source expr.name.span expr.name.value.toList
  /-- The brackets stand directly behind it. -/
  brackets : ∀ parameters ∈ expr.parameters,
    ∃ part, IsBracketed part ∧ StandsBehind source expr.name.value.toList parameters.span part
  /-- The parameters are slices. -/
  parameters : ∀ parameters ∈ expr.parameters, ∀ parameter ∈ parameters.value,
    parameter.IsLossless source

variable {source before after part : List Char} {start : Nat} {fault : Fault}

/-- An expression stands in every text that its own text is a part of. -/
theorem Shape.WellFormed.standsIn_place {shape : Shape} (h : shape.WellFormed)
    (hsource : source = before ++ shape.text ++ after) :
    (shape.place (Text.byteLength before)).StandsIn source := by
  obtain ⟨name, _ | ps⟩ := shape
  · exact ⟨standsAt_piece hsource rfl, nofun, nofun⟩
  have hname : source = before ++ name ++ ('[' :: (listText ps ++ [']']) ++ after) := by
    simpa [Shape.text] using hsource
  have hlist : source = (before ++ name ++ ['[']) ++ listText ps ++ (']' :: after) := by
    simpa [Shape.text] using hsource
  refine ⟨standsAt_piece hname rfl, ?_, ?_⟩
  · rintro _ ⟨⟩
    refine ⟨_, ⟨listText ps, balanced_listText (h.parameters ps rfl), rfl⟩,
      before, after, ?_, ?_, ?_⟩
    · simpa [Shape.place, piece] using hname
    · simp [Shape.place, piece, Span.clamped]
    · simp [Shape.place, piece, Span.clamped, Shape.text]
  · rintro _ ⟨⟩
    have hslices := (isLosslessList_placeAll (h.parameters ps rfl) hlist).slices
    have hstart : Text.byteLength (before ++ name ++ ['[']) =
        Text.byteLength before + Text.byteLength name + 1 := by
      rw [Text.byteLength_append, Text.byteLength_append]
      rfl
    rw [hstart] at hslices
    exact hslices

/-! ## Faults of the readers -/

section Readers

variable {kind : FieldKind} {name : String} {parameter : TypeParameter} {expr : TypeExpr}
  {value : Spanned String}

theorem standsIn_of_checkKey (h : parameter.IsLossless source)
    (herror : checkKey kind name parameter = .error fault) : fault.StandsIn source := by
  rw [checkKey] at herror
  split at herror
  · next key hkey =>
    split at herror
    · contradiction
    · rw [← Except.error.inj herror]
      exact (h.key key hkey).1
  · contradiction

theorem standsIn_of_onlyParameter {brackets : Span} {parameters : List TypeParameter}
    (hbrackets : IsSlice source brackets)
    (h : ∀ parameter ∈ parameters, parameter.IsLossless source)
    (herror : onlyParameter kind name brackets parameters = .error fault) :
    fault.StandsIn source := by
  match parameters with
  | [] =>
    rw [← Except.error.inj herror]
    exact hbrackets
  | [only] =>
    rcases bind_eq_error_iff.mp herror with herror | ⟨_, -, herror⟩
    · exact standsIn_of_checkKey (h only (by simp)) herror
    · contradiction
  | first :: again :: others =>
    have hfirst := h first (by simp)
    have hagain := h again (by simp)
    rcases bind_eq_error_iff.mp herror with herror | ⟨_, -, herror⟩
    · exact standsIn_of_checkKey hfirst herror
    rcases bind_eq_error_iff.mp herror with herror | ⟨_, -, herror⟩
    · exact standsIn_of_checkKey hagain herror
    · rw [← Except.error.inj herror]
      refine ⟨⟨_, hagain.whole⟩, ?_⟩
      rintro _ ⟨⟩
      exact ⟨_, hfirst.whole⟩

theorem standsIn_of_requiredParameters (h : expr.StandsIn source)
    (herror : requiredParameters kind expr = .error fault) : fault.StandsIn source := by
  rw [requiredParameters] at herror
  split at herror
  · contradiction
  · rw [← Except.error.inj herror]
    exact ⟨_, h.name⟩

theorem standsIn_of_onlyValue (h : expr.StandsIn source)
    (herror : onlyValue kind name expr = .error fault) : fault.StandsIn source := by
  rcases bind_eq_error_iff.mp herror with herror | ⟨parameters, hparameters, herror⟩
  · exact standsIn_of_requiredParameters h herror
  have hmem := requiredParameters_eq_ok_iff.mp hparameters
  rcases bind_eq_error_iff.mp herror with herror | ⟨_, -, herror⟩
  · obtain ⟨part, -, hbrackets⟩ := h.brackets parameters hmem
    exact standsIn_of_onlyParameter ⟨part, hbrackets.standsAt⟩ (h.parameters parameters hmem) herror
  · contradiction

theorem standsAt_of_onlyValue (h : expr.StandsIn source)
    (hok : onlyValue kind name expr = .ok value) :
    StandsAt source value.span value.value.toList := by
  obtain ⟨brackets, parameter, hparameters, -, rfl⟩ := onlyValue_eq_ok_iff.mp hok
  exact (h.parameters _ hparameters parameter (by simp)).value.1

theorem standsIn_of_domain (h : StandsAt source value.span value.value.toList)
    (herror : domain value = .error fault) : fault.StandsIn source := by
  rw [domain] at herror
  split at herror
  · contradiction
  · rw [← Except.error.inj herror]
    exact h

theorem standsIn_of_format (h : StandsAt source value.span value.value.toList)
    (herror : format kind value = .error fault) : fault.StandsIn source := by
  rw [format] at herror
  split at herror
  · rw [← Except.error.inj herror]
    exact ⟨_, h⟩
  · contradiction

theorem standsIn_of_ordered (h : parameter.IsLossless source)
    (herror : ordered parameter = .error fault) : fault.StandsIn source := by
  rcases bind_eq_error_iff.mp herror with herror | ⟨_, -, herror⟩
  · rw [checkFlagKey] at herror
    split at herror
    · next key hkey =>
      split at herror
      · contradiction
      · split at herror
        · rw [← Except.error.inj herror]
          exact ⟨⟨_, h.whole⟩, by simp⟩
        · rw [← Except.error.inj herror]
          exact (h.key key hkey).1
    · contradiction
  · split at herror
    · contradiction
    · rw [← Except.error.inj herror]
      exact h.value.1

theorem standsIn_of_listParameters {brackets : Span} {parameters : List TypeParameter}
    (hbrackets : IsSlice source brackets)
    (h : ∀ parameter ∈ parameters, parameter.IsLossless source)
    (herror : listParameters brackets parameters = .error fault) : fault.StandsIn source := by
  match parameters with
  | [] =>
    rw [← Except.error.inj herror]
    exact hbrackets
  | [first] | [first, _] =>
    simp only [listParameters] at herror
    split at herror
    · next key hkey =>
      split at herror
      · contradiction
      · rw [← Except.error.inj herror]
        exact ⟨_, ((h first (by simp)).key key hkey).1⟩
    · contradiction
  | _ :: _ :: third :: _ =>
    rw [← Except.error.inj herror]
    exact ⟨_, (h third (by simp)).whole⟩

/-! ## Faults of a kind -/

variable {denoteElement : Spanned String → Except Fault FieldType}

/-- A kind with a format finds a fault in its one parameter. -/
theorem standsIn_of_ofFormat (make : String → FieldType) (h : expr.StandsIn source)
    (herror : (do
      let value ← onlyValue kind "fmt" expr
      return make (← format kind value)) = .error fault) : fault.StandsIn source := by
  rcases bind_eq_error_iff.mp herror with herror | ⟨value, hvalue, herror⟩
  · exact standsIn_of_onlyValue h herror
  rcases bind_eq_error_iff.mp herror with herror | ⟨_, -, herror⟩
  · exact standsIn_of_format (standsAt_of_onlyValue h hvalue) herror
  · contradiction

/-- A list finds a fault in its parameters, or its element type has one. -/
theorem standsIn_of_ofKind_list (h : expr.StandsIn source)
    (helement : ∀ parameters ∈ expr.parameters, ∀ first ∈ parameters.value.head?, ∀ fault,
      denoteElement first.value = .error fault → fault.StandsIn source)
    (herror : ofKind denoteElement .list expr = .error fault) : fault.StandsIn source := by
  -- The faults in the order in which they are looked for: brackets, parameters, element, flag.
  rcases bind_eq_error_iff.mp herror with herror | ⟨parameters, hparameters, herror⟩
  · exact standsIn_of_requiredParameters h herror
  have hmem := requiredParameters_eq_ok_iff.mp hparameters
  obtain ⟨part, -, hbrackets⟩ := h.brackets parameters hmem
  have hlossless := h.parameters parameters hmem
  rcases bind_eq_error_iff.mp herror with herror | ⟨⟨element, flag⟩, hlist, herror⟩
  · exact standsIn_of_listParameters ⟨part, hbrackets.standsAt⟩ hlossless herror
  obtain ⟨first, hvalue, -, rfl⟩ := listParameters_eq_ok_iff.mp hlist
  rcases bind_eq_error_iff.mp herror with herror | ⟨_, -, herror⟩
  · exact helement parameters hmem first (by simp [hvalue]) fault herror
  cases flag with
  | none => contradiction
  | some flag =>
    rcases bind_eq_error_iff.mp herror with herror | ⟨_, -, herror⟩
    · exact standsIn_of_ordered (hlossless flag (by simp [hvalue])) herror
    · contradiction

/-- A kind without parameters finds a fault only in parameters that are there. -/
theorem exists_of_ofKind_plain (harity : kind.arity = .parameterless)
    (herror : ofKind denoteElement kind expr = .error fault) :
    ∃ parameters, expr.parameters = some parameters ∧
      fault = .unexpectedParameters kind parameters.span := by
  obtain ⟨name, _ | parameters⟩ := expr
  · have hread : ofKind denoteElement kind ⟨name, none⟩ = .ok (.plain kind) := by
      -- The plain kinds share one branch.
      cases kind <;> first | rfl | contradiction
    rw [hread] at herror
    contradiction
  · have hread : ofKind denoteElement kind ⟨name, some parameters⟩ =
        .error (.unexpectedParameters kind parameters.span) := by
      cases kind <;> first | rfl | contradiction
    rw [hread] at herror
    exact ⟨parameters, rfl, (Except.error.inj herror).symm⟩

/-- The fault that a kind finds in the parameters of an expression stands in the text, if those
of an element type do. -/
theorem standsIn_of_ofKind (h : expr.StandsIn source) (hkind : expr.name.value = kind.name)
    (helement : ∀ parameters ∈ expr.parameters, ∀ first ∈ parameters.value.head?, ∀ fault,
      denoteElement first.value = .error fault → fault.StandsIn source)
    (herror : ofKind denoteElement kind expr = .error fault) : fault.StandsIn source := by
  -- Kinds without parameters are told apart first, since they share one answer.
  by_cases harity : kind.arity = .parameterless
  · obtain ⟨parameters, hparameters, rfl⟩ := exists_of_ofKind_plain harity herror
    refine ⟨harity, ?_⟩
    rw [← hkind]
    exact h.brackets parameters hparameters
  cases kind with
  | label =>
    rcases bind_eq_error_iff.mp herror with herror | ⟨value, hvalue, herror⟩
    · exact standsIn_of_onlyValue h herror
    rcases bind_eq_error_iff.mp herror with herror | ⟨_, -, herror⟩
    · exact standsIn_of_domain (standsAt_of_onlyValue h hvalue) herror
    · contradiction
  | date => exact standsIn_of_ofFormat .date h herror
  | time => exact standsIn_of_ofFormat .time h herror
  | list => exact standsIn_of_ofKind_list h helement herror
  | _ => exact absurd rfl harity

end Readers

/-! ## Faults at any depth -/

/-- A text that is no expression has its fault where it stops being one. -/
theorem standsIn_of_parse (hsource : source = before ++ part ++ after)
    (herror : parse (Text.byteLength before) part = .error fault) : fault.StandsIn source := by
  rcases parse_eq_error_iff.mp herror with ⟨offset, hdeep, rfl⟩ | ⟨-, place, hread, rfl⟩
  · obtain ⟨front, rest, ⟨rfl, -, -⟩, rfl⟩ := tooDeepAt?_eq_some_iff.mp hdeep
    have hbracket : source = before ++ front ++ ['['] ++ (rest ++ after) := by simpa using hsource
    exact standsAt_ofLength hbracket (Text.byteLength_append before front)
  · obtain ⟨front, rest, hstop, rfl⟩ := exists_isStop_of_read hread
    have hstart : Text.byteLength (before ++ front) =
        Text.byteLength before + Text.byteLength front :=
      Text.byteLength_append before front
    rw [hstop.text] at hsource
    cases rest with
    | nil =>
      have hend : source = before ++ front ++ [] ++ after := by simpa using hsource
      exact standsAt_ofLength hend hstart
    | cons c rest =>
      have hfound : source = before ++ front ++ [c] ++ (rest ++ after) := by simpa using hsource
      exact standsAt_ofLength hfound hstart

/-- The value of the first parameter nests less deeply than the expression. -/
theorem Shape.WellFormed.nestingDepth_first_lt {shape : Shape} {p : ParameterShape}
    {ps : List ParameterShape} (h : shape.WellFormed) (hps : shape.parameters = some (p :: ps)) :
    nestingDepth p.value < nestingDepth shape.text := by
  obtain ⟨name, parameters⟩ := shape
  obtain rfl : parameters = some (p :: ps) := hps
  have hp := h.parameters _ rfl p List.mem_cons_self
  rw [h.nestingDepth_text, nestingDepth_listText_cons hp]
  omega

/-- A fault in an expression that is part of a text stands in the text, at whatever depth of lists
it is. There are always enough levels left for the element types. -/
theorem standsIn_of_denote {levels : Nat} (hlevels : min (nestingDepth part) maxNesting < levels)
    (hsource : source = before ++ part ++ after)
    (herror : denote levels (Text.byteLength before) part = .error fault) :
    fault.StandsIn source := by
  induction levels generalizing before part after fault with
  | zero => contradiction
  | succ levels ih =>
    rw [denote_succ] at herror
    rcases bind_eq_error_iff.mp herror with herror | ⟨expr, hparse, herror⟩
    · exact standsIn_of_parse hsource herror
    obtain ⟨hdepth, hread⟩ := parse_eq_ok_iff.mp hparse
    obtain ⟨shape, hshape, rfl, rfl⟩ := read_eq_ok_iff.mp hread
    have hexpr := hshape.standsIn_place hsource
    rw [typeOf] at herror
    split at herror
    · rw [← Except.error.inj herror]
      exact hexpr.name
    · next kind hkind =>
      refine standsIn_of_ofKind hexpr (ofName?_eq_some_iff.mp hkind).symm ?_ herror
      -- The element type is a slice of the text as well, and it nests less deeply.
      rintro ⟨parameters, brackets⟩ hparameters first hfirst fault helement
      obtain ⟨before', after', hsource', hstart, -⟩ :=
        (hexpr.parameters _ hparameters first (List.mem_of_mem_head? hfirst)).value.1
      rw [← hstart] at helement
      refine ih ?_ hsource' helement
      obtain ⟨ps, hps, hplace⟩ := parameters_place hparameters
      obtain ⟨rest, rfl⟩ := List.head?_eq_some_iff.mp hfirst
      obtain ⟨p, others, rfl, rfl, -⟩ := placeAll_eq_cons_iff.mp hplace
      have hlt := hshape.nestingDepth_first_lt hps
      rw [value_place]
      omega

/-! ## Diagnostics -/

/-- What a diagnostic says about the part of the text under its first label. -/
inductive Pinpoints (source : List Char) (d : Diagnostic) (label : Label) (part : List Char) : Prop
  /-- The part is the name of no kind. -/
  | unknownType :
      d.code.map ErrorCode.text = some "E100" → label.text = "not a field type" →
      d.message = "unknown type " ++ ("`" ++ String.ofList part ++ "`") →
        Pinpoints source d label part
  /-- The part is the list of parameters behind the name of a kind that takes none. -/
  | unexpectedParameters {kind : FieldKind} :
      d.code.map ErrorCode.text = some "E100" → label.text = "unexpected parameters" →
      d.message = "unknown type " ++ ("`" ++ (kind.name ++ "[...]") ++ "`") →
      kind.arity = .parameterless →
      IsBracketed part → StandsBehind source kind.name.toList label.span part →
        Pinpoints source d label part
  /-- The part is the name of a parameter. -/
  | unknownParameter {kind : FieldKind} :
      d.code.map ErrorCode.text = some "E103" →
      d.message = "unknown parameter " ++ ("`" ++ String.ofList part ++ "`") ++ " for " ++
        ("`" ++ kind.name ++ "`") → Pinpoints source d label part
  /-- The list does not begin with its element type. -/
  | elementNotFirst :
      d.code.map ErrorCode.text = some "E103" →
      d.message = "List types must contain parameter `etype`" → Pinpoints source d label part
  | invalidFlag :
      d.code.map ErrorCode.text = some "E105" →
      d.message = "invalid value " ++ ("`" ++ String.ofList part ++ "`") ++
        " for `ordered` of List" →
      Pinpoints source d label part
  | invalidDomain :
      d.code.map ErrorCode.text = some "E106" →
      d.message = "invalid dom: " ++ ("`" ++ String.ofList part ++ "`") ++ " is not an identifier" →
      Pinpoints source d label part
  | unexpectedCharacter {c : Char} :
      d.code.map ErrorCode.text = some "E107" →
      label.text = "unexpected `" ++ String.singleton c ++ "`" →
      part = [c] → Pinpoints source d label part
  | unexpectedEnd :
      d.code.map ErrorCode.text = some "E107" →
      label.text = "unexpected end of expression" → part = [] →
      Pinpoints source d label part
  | nestedTooDeeply :
      d.code.map ErrorCode.text = some "E107" → label.text = "nested too deeply" → part = ['['] →
      Pinpoints source d label part
  /-- Nothing is quoted: parameters are missing, one is given twice, there are too many, or a format
  has both kinds of quotes. -/
  | other {code : String} :
      d.code.map ErrorCode.text = some code → code ∈ ["E101", "E102", "E104", "E108"] →
      Pinpoints source d label part

/-- The labels of a diagnostic mark slices of the text. The first one marks the fault, and the part
under it is what the diagnostic is about. -/
structure IsPinpointed (source : List Char) (d : Diagnostic) : Prop where
  /-- Every label marks a slice. -/
  slices : ∀ label ∈ d.labels, IsSlice source label.span
  /-- The first label marks the fault. -/
  first : ∃ label rest part, d.labels = label :: rest ∧ label.isPrimary ∧
    StandsAt source label.span part ∧ Pinpoints source d label part

/-- The first label of a diagnostic marks the fault, and the others mark slices of the text. -/
theorem isPinpointed_of_labels {d : Diagnostic} {label : Label} {rest : List Label}
    (hlabels : d.labels = label :: rest) (hrest : ∀ label ∈ rest, IsSlice source label.span)
    (hprimary : label.isPrimary) (hpart : StandsAt source label.span part)
    (hpinpoints : Pinpoints source d label part) : IsPinpointed source d := by
  refine ⟨?_, label, rest, part, hlabels, hprimary, hpart, hpinpoints⟩
  rw [hlabels]
  exact List.forall_mem_cons.mpr ⟨⟨part, hpart⟩, hrest⟩

/-- A fault that stands in a text has a diagnostic with its labels on the text. -/
theorem Fault.StandsIn.isPinpointed (h : fault.StandsIn source) (text : String) :
    IsPinpointed source (fault.diagnostic.withSource text) := by
  have hsingle : ∀ {d : Diagnostic} {label : Label} {part : List Char},
      d.labels = [label] → label.isPrimary →
      StandsAt source label.span part → Pinpoints source d label part → IsPinpointed source d :=
    fun hlabels => isPinpointed_of_labels hlabels nofun
  -- Most diagnostics have one label; only a parameter given twice marks a second place.
  cases fault with
  | nestedTooDeeply offset => exact hsingle rfl rfl h (.nestedTooDeeply rfl rfl rfl)
  | malformed _ place =>
    obtain ⟨offset, _ | c⟩ := place
    · exact hsingle rfl rfl h (.unexpectedEnd rfl rfl rfl)
    · exact hsingle rfl rfl h (.unexpectedCharacter rfl rfl rfl)
  | unknownType name =>
    refine hsingle rfl rfl h (.unknownType rfl rfl ?_)
    rw [String.ofList_toList]
    rfl
  | unexpectedParameters kind brackets =>
    obtain ⟨harity, part, hpart, hbehind⟩ := h
    exact hsingle rfl rfl hbehind.standsAt (.unexpectedParameters rfl rfl rfl harity hpart hbehind)
  | missingParameters kind span =>
    obtain ⟨part, hpart⟩ := h
    exact hsingle rfl rfl hpart (.other rfl (by decide))
  | unknownParameter kind key =>
    have hmessage : ((Fault.unknownParameter kind key).diagnostic.withSource text).message =
        "unknown parameter " ++ ("`" ++ String.ofList key.value.toList ++ "`") ++ " for " ++
          ("`" ++ kind.name ++ "`") := by
      rw [String.ofList_toList]
      rfl
    exact hsingle rfl rfl h (.unknownParameter rfl hmessage)
  | duplicateParameter kind key again first =>
    obtain ⟨⟨part, hpart⟩, hfirst⟩ := h
    cases first with
    | none => exact hsingle rfl rfl hpart (.other rfl (by decide))
    | some first =>
      refine isPinpointed_of_labels rfl ?_ rfl hpart (.other rfl (by decide))
      exact List.forall_mem_singleton.mpr (hfirst first rfl)
  | invalidDomain domain =>
    refine hsingle rfl rfl h (.invalidDomain rfl ?_)
    rw [String.ofList_toList]
    rfl
  | mixedQuotes kind format =>
    obtain ⟨part, hpart⟩ := h
    exact hsingle rfl rfl hpart (.other rfl (by decide))
  | tooManyParameters count third =>
    obtain ⟨part, hpart⟩ := h
    exact hsingle rfl rfl hpart (.other rfl (by decide))
  | elementNotFirst key =>
    obtain ⟨part, hpart⟩ := h
    exact hsingle rfl rfl hpart (.elementNotFirst rfl rfl)
  | invalidFlag value =>
    refine hsingle rfl rfl h (.invalidFlag rfl ?_)
    rw [String.ofList_toList]
    rfl

theorem Fault.source_withSource (fault : Fault) (text : String) :
    (fault.diagnostic.withSource text).source = some text := by
  cases fault with
  | duplicateParameter kind key again first => cases first <;> rfl
  | _ => rfl

end TypeExpr

open TypeExpr

/-- A text that denotes no field type is refused with a diagnostic that shows the whole text. Its
labels mark slices of this text, and the first one marks what the diagnostic is about, at whatever
depth of lists the fault is. -/
theorem FieldType.ofText_error_pinpoints {source : String} {d : Diagnostic}
    (h : FieldType.ofText source = .error d) :
    d.source = some source ∧ IsPinpointed source.toList d := by
  rw [ofText, denotedBy, mapError_eq_error_iff] at h
  obtain ⟨fault, hfault, rfl⟩ := h
  have hlevels : min (nestingDepth source.toList) maxNesting < maxNesting + 1 :=
    Nat.lt_succ_of_le (Nat.min_le_right _ _)
  have hsource : source.toList = [] ++ source.toList ++ [] := (List.append_nil _).symm
  have hstands := standsIn_of_denote hlevels hsource hfault
  exact ⟨fault.source_withSource source, hstands.isPinpointed source⟩

/-- The flag of the inner list is invalid. Its two bytes are found behind letters of two bytes. -/
theorem FieldType.ofText_invalidFlag :
    ∃ d, FieldType.ofText "List[List[Label[Größe],ordered=ö],true]" = .error d ∧
      d.source = some "List[List[Label[Größe],ordered=ö],true]" ∧
      IsPinpointed "List[List[Label[Größe],ordered=ö],true]".toList d := by
  have h : FieldType.ofText "List[List[Label[Größe],ordered=ö],true]" =
      .error ((Fault.invalidFlag ⟨"ö", ⟨33, 35, by decide⟩⟩).diagnostic.withSource
        "List[List[Label[Größe],ordered=ö],true]") := by decide +kernel
  exact ⟨_, h, FieldType.ofText_error_pinpoints h⟩

end DatasetSchema
