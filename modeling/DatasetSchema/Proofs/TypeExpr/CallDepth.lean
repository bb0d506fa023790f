import DatasetSchema.Proofs.TypeExpr.OpenBracket
import DatasetSchema.Proofs.TypeExpr.Pinpoint
import DatasetSchema.Proofs.TypeExpr.ReadByDescent

/-!
# How deep the calls go

To find the type that a text denotes there are calls inside one another of two kinds: one for each
bracket that is open while an expression is read, and one for each element type of a list, which is
read as an expression of its own. The scan for brackets that are too deep bounds both. So nothing
changes if calls are refused beyond `maxNesting`, and the type that is found is the one that reading
without any limit finds.

## Main definitions

* `TypeExpr.IsElement`: the text that is read inside another one, as the element type of a list;
* `TypeExpr.typeWithin`: the type that a text denotes, with a limit on the calls of both kinds;
* `TypeExpr.IsUnlimited`: a way to find types by calls that are not limited;
* `TypeExpr.HasBoundedCalls`: the calls for a text are as few as the scan promises.

## Main results

* `TypeExpr.length_le_of_isChain`: a text that is scanned has `maxNesting` elements
  inside one another at most;
* `TypeExpr.isUnlimited_iff`: there is one way to find types without a limit, and
  `TypeExpr.denote` is it;
* `TypeExpr.calls_bounded_by_nesting`: what the scan refuses, and that the calls of all
  other texts are bounded.
-/

namespace DatasetSchema.TypeExpr

open Descent

/-! ## Elements -/

/-- The element type that an expression is asked for: that of a list whose parameters have an
element type first and are not too many. -/
def element? (expr : TypeExpr) : Option (Spanned String) :=
  match FieldKind.ofName? expr.name.value, expr.parameters with
  | some .list, some parameters =>
    match listParameters parameters.span parameters.value with
    | .ok (element, _) => some element
    | .error _ => none
  | _, _ => none

/-- To find the type of the outer text, the type of the inner one has to be found. -/
def IsElement (outer inner : List Char) : Prop :=
  ∃ start expr element, parse start outer = .ok expr ∧ expr.element? = some element ∧
    element.value.toList = inner

variable {levels start : Nat} {source inner outer : List Char} {expr : TypeExpr}
  {element : Spanned String}

theorem element?_eq_some_iff :
    expr.element? = some element ↔ FieldKind.ofName? expr.name.value = some .list ∧
      ∃ parameters flag, expr.parameters = some parameters ∧
        listParameters parameters.span parameters.value = .ok (element, flag) := by
  rw [element?]
  split
  · next parameters hkind hparameters =>
    rw [hkind, hparameters]
    cases hlist : listParameters parameters.span parameters.value with
    | error fault => simp [hlist]
    | ok found => simp [hlist, Prod.ext_iff]
  · next hother =>
    refine ⟨nofun, ?_⟩
    rintro ⟨hkind, parameters, flag, hparameters, -⟩
    exact absurd hparameters (hother parameters hkind)

/-- An element nests less deeply than the text around it, which has been scanned. -/
theorem nestingDepth_element_lt (hparse : parse start source = .ok expr)
    (h : expr.element? = some element) :
    nestingDepth element.value.toList < nestingDepth source ∧ nestingDepth source ≤ maxNesting := by
  obtain ⟨hdepth, hread⟩ := parse_eq_ok_iff.mp hparse
  obtain ⟨shape, hshape, rfl, rfl⟩ := read_eq_ok_iff.mp hread
  obtain ⟨-, ⟨parameters, brackets⟩, flag, hparameters, hlist⟩ := element?_eq_some_iff.mp h
  obtain ⟨first, hvalue, -, rfl⟩ := listParameters_eq_ok_iff.mp hlist
  obtain ⟨ps, hps, hplace⟩ := parameters_place hparameters
  obtain rfl : parameters = first :: flag.toList := hvalue
  obtain ⟨p, others, rfl, rfl, -⟩ := placeAll_eq_cons_iff.mp hplace
  rw [value_place]
  exact ⟨hshape.nestingDepth_first_lt hps, hdepth⟩

/-- Elements inside one another are at most as many as the brackets that are open at once. -/
theorem length_le_nestingDepth {calls : List (List Char)}
    (h : (source :: calls).IsChain IsElement) :
    calls.length ≤ nestingDepth source := by
  induction calls generalizing source with
  | nil => exact Nat.zero_le _
  | cons inner calls ih =>
    obtain ⟨⟨start, expr, element, hparse, helement, rfl⟩, hrest⟩ := List.isChain_cons_cons.mp h
    have hlt := (nestingDepth_element_lt hparse helement).1
    have hle := ih hrest
    rw [List.length_cons]
    omega

/-- At most `maxNesting` elements stand inside one another. -/
theorem length_le_of_isChain {calls : List (List Char)} (h : (source :: calls).IsChain IsElement) :
    calls.length ≤ maxNesting := by
  cases calls with
  | nil => exact Nat.zero_le _
  | cons inner calls =>
    obtain ⟨⟨start, expr, element, hparse, helement, -⟩, -⟩ := List.isChain_cons_cons.mp h
    exact (length_le_nestingDepth h).trans (nestingDepth_element_lt hparse helement).2

/-! ## One call -/

variable {limit : Option Nat} {beyond : Fault}
  {types types' : Nat → List Char → Except Fault FieldType}

/-- For the type of an expression only the type of its element is asked for. -/
theorem typeOf_congr (h : ∀ element, expr.element? = some element →
      types element.span.start element.value.toList =
        types' element.span.start element.value.toList) :
    typeOf types expr = typeOf types' expr := by
  rw [typeOf, typeOf]
  cases hkind : FieldKind.ofName? expr.name.value with
  | none => rfl
  | some kind =>
    cases kind with
    | list =>
      obtain ⟨name, _ | parameters⟩ := expr
      · rfl
      -- The parameters are read without `types`, so both sides fail on them in the same way.
      show (listParameters parameters.span parameters.value >>= _) =
        (listParameters parameters.span parameters.value >>= _)
      cases hlist : listParameters parameters.span parameters.value with
      | error fault => rfl
      | ok pair =>
        obtain ⟨element, flag⟩ := pair
        have helement := h element (element?_eq_some_iff.mpr ⟨hkind, parameters, flag, rfl, hlist⟩)
        show (types element.span.start element.value.toList >>= _) =
          (types' element.span.start element.value.toList >>= _)
        rw [helement]
    | _ => rfl

/-- Finds the type of a text: it is scanned and read, with at most `limit` brackets open at
once, and `types` is called for the type of its element. If the limit is in the way, the
fault `beyond` is told. -/
def typeBy (limit : Option Nat) (beyond : Fault) (types : Nat → List Char → Except Fault FieldType)
    (start : Nat) (source : List Char) : Except Fault FieldType := do
  checkNesting start source
  let expr ← (expression limit start source).mapError fun
    | .unexpected place => .malformed (String.ofList source) place
    | .tooDeep => beyond
  typeOf types expr

/-- A limit that allows `maxNesting` brackets is never in the way. -/
theorem typeBy_eq (hallows : Allows limit maxNesting) :
    typeBy limit beyond types start source = parse start source >>= typeOf types := by
  rw [typeBy, parse]
  cases hscan : checkNesting start source with
  | error fault => rfl
  | ok =>
    have hdepth := checkNesting_eq_ok_iff.mp hscan
    rw [expression_eq_read (hallows.mono hdepth)]
    cases read start source <;> rfl

/-- A text that is scanned has the type that it would have if only texts that nest
less deeply had types. -/
theorem parse_bind_congr
    (h : nestingDepth source ≤ maxNesting →
      ∀ start inner, nestingDepth inner < nestingDepth source →
        types start inner = types' start inner) :
    parse start source >>= typeOf types = parse start source >>= typeOf types' := by
  cases hparse : parse start source with
  | error fault => rfl
  | ok expr =>
    refine typeOf_congr fun element helement => ?_
    obtain ⟨hlt, hdepth⟩ := nestingDepth_element_lt hparse helement
    exact h hdepth _ _ hlt

/-! ## Calls for elements -/

/-- Levels that the brackets of a text do not use up do not change what it denotes. -/
theorem denote_eq_denote {levels' : Nat} (h : min (nestingDepth source) maxNesting < levels)
    (h' : min (nestingDepth source) maxNesting < levels') :
    denote levels start source = denote levels' start source := by
  induction levels generalizing levels' start source with
  | zero => exact absurd h (Nat.not_lt_zero _)
  | succ levels ih =>
    cases levels' with
    | zero => exact absurd h' (Nat.not_lt_zero _)
    | succ levels' =>
      rw [denote_succ, denote_succ]
      refine parse_bind_congr fun hdepth start inner hlt => ih ?_ ?_
      · omega
      · omega

/-- Finds types by calls that are not limited: of any number of brackets, and of any number of
elements inside one another. -/
def IsUnlimited (types : Nat → List Char → Except Fault FieldType) : Prop :=
  ∀ beyond start source, types start source = typeBy none beyond types start source

/-- The type that a text denotes, with at most `limit` brackets open at once and at most `levels`
texts read inside one another. If a limit is in the way, the fault `beyond` is told. -/
def typeWithin (limit : Nat) (beyond : Fault) : (levels start : Nat) → List Char →
    Except Fault FieldType
  | 0, _, _ => .error beyond
  | levels + 1, start, source =>
    typeBy (some limit) beyond (typeWithin limit beyond levels) start source

theorem allows_none {depth : Nat} : Allows none depth := nofun

theorem allows_some {depth : Nat} : Allows (some depth) depth := by
  rintro _ ⟨⟩
  exact le_rfl

/-- Whatever would be told beyond the limits, the types are those that a text denotes. -/
theorem typeWithin_eq (h : min (nestingDepth source) maxNesting < levels) :
    typeWithin maxNesting beyond levels start source = denote levels start source := by
  induction levels generalizing start source with
  | zero => exact absurd h (Nat.not_lt_zero _)
  | succ levels ih =>
    rw [typeWithin, typeBy_eq allows_some, denote_succ]
    refine parse_bind_congr fun hdepth start inner hlt => ih ?_
    omega

/-- Calls without a limit find the types that texts denote, and nothing else does. -/
theorem isUnlimited_iff : IsUnlimited types ↔ types = denote (maxNesting + 1) := by
  constructor
  · intro h
    -- The induction is over the depth: the element of a text nests less deeply.
    have htypes : ∀ depth start source, nestingDepth source = depth →
        types start source = denote (maxNesting + 1) start source := by
      intro depth
      induction depth using Nat.strong_induction_on with
      | _ depth ih =>
        rintro start source rfl
        rw [h (.nestedTooDeeply 0), typeBy_eq allows_none, denote_succ]
        refine parse_bind_congr fun hdepth start inner hlt => ?_
        rw [ih _ hlt start inner rfl]
        exact denote_eq_denote (by omega) (by omega)
    funext start source
    exact htypes _ start source rfl
  · rintro rfl beyond start source
    rw [typeBy_eq allows_none, denote_succ]
    refine parse_bind_congr fun hdepth start inner hlt => ?_
    exact denote_eq_denote (by omega) (by omega)

/-! ## Calls of both kinds -/

/-- The calls for a text are at most `maxNesting` of each kind, and it makes no difference
whether they are limited. -/
structure HasBoundedCalls (start : Nat) (source : List Char) : Prop where
  /-- No call for a bracket is refused, also if the text is no expression. -/
  brackets : expression (some maxNesting) start source ≠ .error .tooDeep
  /-- Without a limit the calls for brackets come to the same. -/
  unlimited : expression (some maxNesting) start source = expression none start source
  /-- What they come to is what reading comes to. -/
  isRead : expression none start source = (read start source).mapError .unexpected
  /-- At most `maxNesting` element types lie inside one another. -/
  elements : ∀ calls, (source :: calls).IsChain IsElement → calls.length ≤ maxNesting
  /-- No limit is in the way of the type. -/
  type : ∀ beyond, typeWithin maxNesting beyond (maxNesting + 1) start source =
    denote (maxNesting + 1) start source

theorem hasBoundedCalls (h : nestingDepth source ≤ maxNesting) : HasBoundedCalls start source := by
  have hlimited : expression (some maxNesting) start source =
      (read start source).mapError .unexpected :=
    expression_eq_read (allows_some.mono h)
  have hunlimited : expression none start source = (read start source).mapError .unexpected :=
    expression_eq_read allows_none
  refine
    { brackets := ?_
      unlimited := hlimited.trans hunlimited.symm
      isRead := hunlimited
      elements := fun calls => length_le_of_isChain
      type := fun beyond => typeWithin_eq (Nat.lt_succ_of_le (min_le_right _ _)) }
  rw [hlimited]
  cases read start source <;> nofun

/-- The scan refuses a text exactly if one of its brackets opens inside `maxNesting` open ones, and
tells the first such bracket. All other texts, expressions or not, are read with at most
`maxNesting` brackets open, and with at most as many elements inside one another below the whole
text, so that their types are those that would be found without a limit. -/
theorem calls_bounded_by_nesting (start : Nat) (source : List Char) :
    ((∃ fault, checkNesting start source = .error fault) ↔
      ∃ before after, source = before ++ '[' :: after ∧ LeavesFull maxNesting before) ∧
    (∀ fault, checkNesting start source = .error fault →
      ∃ before after, IsFirstTooDeep maxNesting source before after ∧ fault.diagnostic.labels =
        [⟨Span.ofLength (start + Text.byteLength before) 1, "nested too deeply", true⟩]) ∧
    (checkNesting start source = .ok () → HasBoundedCalls start source) ∧
    ∀ types, IsUnlimited types ↔ types = denote (maxNesting + 1) := by
  refine ⟨⟨?_, ?_⟩, ?_, fun h => hasBoundedCalls (checkNesting_eq_ok_iff.mp h),
    fun types => isUnlimited_iff⟩
  · rintro ⟨fault, h⟩
    obtain ⟨before, after, hfirst, -⟩ := checkNesting_eq_error_iff.mp h
    exact ⟨before, after, hfirst.text, hfirst.full⟩
  · rintro ⟨before, after, htext, hfull⟩
    obtain ⟨before, after, hfirst⟩ := exists_isFirstTooDeep htext hfull
    exact ⟨_, checkNesting_eq_error_iff.mpr ⟨before, after, hfirst, rfl⟩⟩
  · intro fault h
    obtain ⟨before, after, hfirst, rfl⟩ := checkNesting_eq_error_iff.mp h
    exact ⟨before, after, hfirst, rfl⟩

/-- A text with so many lists inside one another. -/
def nestedLists : Nat → List Char
  | 0 => "Int".toList
  | levels + 1 => "List[".toList ++ nestedLists levels ++ "]".toList

/-- As many lists inside one another as there may be are not too deep, but one call
less would be too few. -/
theorem hasBoundedCalls_nestedLists :
    checkNesting 0 (nestedLists maxNesting) = .ok () ∧ HasBoundedCalls 0 (nestedLists maxNesting) ∧
      expression (some (maxNesting - 1)) 0 (nestedLists maxNesting) = .error .tooDeep := by
  have hscan : checkNesting 0 (nestedLists maxNesting) = .ok () := by decide +kernel
  have hfewer : expression (some (maxNesting - 1)) 0 (nestedLists maxNesting) =
      .error .tooDeep := by decide +kernel
  exact ⟨hscan, (calls_bounded_by_nesting 0 (nestedLists maxNesting)).2.2.1 hscan, hfewer⟩

end DatasetSchema.TypeExpr
