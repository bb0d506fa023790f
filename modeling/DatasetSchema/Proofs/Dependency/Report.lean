import DatasetSchema.Proofs.Dependency.EmissionOrder
import Mathlib.Data.List.Lex

/-!
# Reports of circles

Definitions that reach each other over references, and themselves, are one circle. The diagnostics
for a schema are matched with its circles: there is one for each, it names the members in the order
of their declaration, and the circles come in the order in which their first members are declared.
None of this depends on how the components of the graph are listed.

## Main definitions

* `Schema.IsCircle`: the definitions of a circle, in the order of their declaration;
* `Dependency.Reports`: what a diagnostic says about a circle.

## Main results

* `Dependency.Graph.mem_circles_iff`: the circles of a graph are the classes of names that reach
  each other and themselves;
* `Dependency.Graph.pairwise_circles`: the circles come in the order of their first members;
* `Schema.checkAcyclic_reports_circles`: when a schema is refused, and with which diagnostics.
-/

namespace DatasetSchema

open Relation

namespace Dependency

namespace Graph

variable {graph : Graph} {components : List (List String)} {component members circle : List String}
  {name other : String}

/-! ## Members in order -/

/-- Names have their places in the order in which they stand. -/
theorem pairwise_idxOf_names (hnodup : graph.names.Nodup) :
    graph.names.Pairwise fun a b => graph.names.idxOf a < graph.names.idxOf b := by
  rw [List.pairwise_iff_getElem]
  intro i j hi hj hij
  rwa [hnodup.idxOf_getElem, hnodup.idxOf_getElem]

/-- Lists of the same names in the order of declaration are the same. -/
theorem eq_of_sublist_names (hnodup : graph.names.Nodup) (hcircle : circle.Sublist graph.names)
    (hmembers : members.Sublist graph.names) (hmem : ∀ a, a ∈ circle ↔ a ∈ members) :
    circle = members := by
  have horder := pairwise_idxOf_names hnodup
  refine List.Perm.eq_of_pairwise ?_ (horder.sublist hcircle) (horder.sublist hmembers) ?_
  · intro a b _ _ hab hba
    exact absurd hba (Nat.lt_asymm hab)
  · exact (List.perm_ext_iff_of_nodup (hnodup.sublist hcircle) (hnodup.sublist hmembers)).2 hmem

theorem pairwise_inOrder (members : List String) :
    (graph.inOrder members).Pairwise fun a b => graph.names.idxOf a ≤ graph.names.idxOf b := by
  have hsorted := @List.pairwise_mergeSort _
    (fun a b => decide (graph.names.idxOf a ≤ graph.names.idxOf b)) (by simp; omega)
    (by simp; omega) members
  simpa only [inOrder, decide_eq_true_eq] using hsorted

/-- Members that are put in order are picked from all names in the order of declaration. -/
theorem inOrder_eq_filter (hnodup : graph.names.Nodup) (hmembers : members.Nodup)
    (hsubset : members ⊆ graph.names) :
    graph.inOrder members = graph.names.filter fun a => a ∈ members := by
  have horder := (pairwise_idxOf_names hnodup).imp fun {a b} hlt => Nat.le_of_lt hlt
  refine List.Perm.eq_of_pairwise ?_ (pairwise_inOrder members)
    (horder.sublist List.filter_sublist) ?_
  · intro a b ha _ hab hba
    exact (List.idxOf_inj (hsubset (mem_inOrder.1 ha))).1 (Nat.le_antisymm hab hba)
  · refine (List.mergeSort_perm members _).trans ?_
    refine (List.perm_ext_iff_of_nodup hmembers (hnodup.filter _)).2 fun a => ?_
    rw [List.mem_filter, decide_eq_true_eq]
    exact ⟨fun ha => ⟨hsubset ha, ha⟩, And.right⟩

/-- Members that are put in order stand in the order of declaration. -/
theorem inOrder_sublist_names (hnodup : graph.names.Nodup) (hmembers : members.Nodup)
    (hsubset : members ⊆ graph.names) : (graph.inOrder members).Sublist graph.names := by
  rw [inOrder_eq_filter hnodup hmembers hsubset]
  exact List.filter_sublist

/-! ## Circles and their order -/

/-- A name that reaches itself reaches the names of its component over one or more edges. -/
theorem mutual_iff_of_transGen (h : TransGen graph.DependsOn name name) :
    graph.Mutual name other ↔
      TransGen graph.DependsOn name other ∧ TransGen graph.DependsOn other name := by
  constructor
  · rintro ⟨hforth, hback⟩
    exact ⟨h.trans_left hforth, h.trans_right hback⟩
  · rintro ⟨hforth, hback⟩
    exact ⟨hforth.to_reflTransGen, hback.to_reflTransGen⟩

theorem exists_component_of_mem_circles (h : circle ∈ graph.circles components) :
    ∃ component ∈ components, graph.isCircle component ∧ graph.inOrder component = circle := by
  rw [circles, List.mem_mergeSort, List.mem_map] at h
  obtain ⟨component, hfiltered, hcircle⟩ := h
  obtain ⟨hcomponent, hloop⟩ := List.mem_filter.1 hfiltered
  exact ⟨component, hcomponent, hloop, hcircle⟩

/-- Circles are compared by the places of their members, as lists. -/
theorem pairwise_map_idxOf_circles (graph : Graph) (components : List (List String)) :
    (graph.circles components).Pairwise fun a b =>
      a.map graph.names.idxOf ≤ b.map graph.names.idxOf := by
  have hle : ∀ s t : List Nat, (!t.lex s Nat.blt) = true ↔ s ≤ t := by
    intro s t
    rw [Bool.not_eq_true', List.lex_eq_false_iff_not_lex, ← not_lt]
    simp only [Nat.blt_eq]
    rfl
  have hpairwise := @List.pairwise_mergeSort _
    (fun a b : List String => !(b.map graph.names.idxOf).lex (a.map graph.names.idxOf) Nat.blt)
    (by simpa only [hle] using fun a b c => le_trans)
    (by simpa only [Bool.or_eq_true, hle] using fun a b => le_total _ _)
    ((components.filter graph.isCircle).map graph.inOrder)
  simpa only [circles, hle] using hpairwise

section Components

variable (h : graph.IsComponents components) (hnodup : graph.names.Nodup)
include h hnodup

theorem component_sublist_names (hcomponent : component ∈ components) :
    (graph.inOrder component).Sublist graph.names := by
  refine inOrder_sublist_names hnodup (h.nodup hnodup hcomponent) fun a ha => ?_
  exact h.perm.subset (List.mem_flatten.2 ⟨component, hcomponent, ha⟩)

/-- The circles of a graph are the classes of names that reach each other and themselves, each in
the order of declaration. -/
theorem mem_circles_iff (hedges : ∀ edge ∈ graph.edges, edge.2 ∈ graph.names) :
    circle ∈ graph.circles components ↔
      circle.Sublist graph.names ∧
        ∃ name, TransGen graph.DependsOn name name ∧
          ∀ other, other ∈ circle ↔
            TransGen graph.DependsOn name other ∧ TransGen graph.DependsOn other name := by
  constructor
  · intro hcircle
    obtain ⟨component, hcomponent, hloop, rfl⟩ := exists_component_of_mem_circles hcircle
    obtain ⟨name, hname, hpath⟩ := (isCircle_iff h hnodup hcomponent).1 hloop
    refine ⟨component_sublist_names h hnodup hcomponent, name, hpath, fun other => ?_⟩
    rw [mem_inOrder, h.mem_iff component hcomponent name hname, mutual_iff_of_transGen hpath]
  · rintro ⟨hsublist, name, hpath, hmem⟩
    obtain ⟨next, hedge, -⟩ := TransGen.head'_iff.1 hpath
    have hname : name ∈ components.flatten := h.perm.mem_iff.2 (hedges _ hedge)
    obtain ⟨component, hcomponent, hmember⟩ := List.mem_flatten.1 hname
    -- The circle has the members of the component, and both are in the order of declaration.
    have heq : graph.inOrder component = circle := by
      refine eq_of_sublist_names hnodup
        (component_sublist_names h hnodup hcomponent) hsublist fun a => ?_
      rw [mem_inOrder, h.mem_iff component hcomponent name hmember,
        mutual_iff_of_transGen hpath, hmem]
    have hloop := (isCircle_iff h hnodup hcomponent).2 ⟨name, hmember, hpath⟩
    rw [circles, List.mem_mergeSort, List.mem_map]
    exact ⟨component, List.mem_filter.2 ⟨hcomponent, hloop⟩, heq⟩

/-- No name is in two circles. -/
theorem disjoint_circles : (graph.circles components).Pairwise List.Disjoint := by
  have hdisjoint : components.Pairwise List.Disjoint :=
    (List.nodup_flatten.1 (h.perm.nodup_iff.2 hnodup)).2
  have hordered :
      ((components.filter graph.isCircle).map graph.inOrder).Pairwise List.Disjoint := by
    refine List.pairwise_map.2 ((hdisjoint.filter graph.isCircle).imp fun {a b} hab => ?_)
    intro x hx hx'
    exact hab (mem_inOrder.1 hx) (mem_inOrder.1 hx')
  exact ((List.mergeSort_perm _ _).pairwise_iff List.Disjoint.symm).2 hordered

/-- The first of two circles has a member that is declared before all members of the other. -/
theorem pairwise_circles :
    (graph.circles components).Pairwise fun a b =>
      ∃ first ∈ a, ∀ other ∈ b, graph.names.idxOf first < graph.names.idxOf other := by
  have hsorted := (pairwise_map_idxOf_circles graph components).and (disjoint_circles h hnodup)
  refine hsorted.imp_of_mem fun {a b} ha hb hab => ?_
  obtain ⟨hle, hdisjoint⟩ := hab
  obtain ⟨component, hcomponent, -, rfl⟩ := exists_component_of_mem_circles ha
  obtain ⟨component', -, -, rfl⟩ := exists_component_of_mem_circles hb
  have horder := @pairwise_inOrder graph component'
  have hsubset := (component_sublist_names h hnodup hcomponent).subset
  have hne : graph.inOrder component ≠ [] := by
    obtain ⟨member, hmember⟩ := List.exists_mem_of_ne_nil _ (h.ne_nil component hcomponent)
    exact List.ne_nil_of_mem (mem_inOrder.2 hmember)
  obtain ⟨first, rest, hfirst⟩ := List.exists_cons_of_ne_nil hne
  rw [hfirst] at hle hdisjoint hsubset ⊢
  refine ⟨first, List.mem_cons_self, ?_⟩
  cases hb : graph.inOrder component' with
  | nil => exact nofun
  | cons first' rest' =>
    rw [hb] at hle hdisjoint horder
    -- Compared as lists of places, the first members decide, for they differ.
    have hle' : graph.names.idxOf first ≤ graph.names.idxOf first' :=
      le_of_not_gt fun hlt => not_lt.2 hle (List.Lex.rel hlt)
    have hdiffer : graph.names.idxOf first ≠ graph.names.idxOf first' := by
      intro heq
      have hsame := (List.idxOf_inj (hsubset List.mem_cons_self)).1 heq
      exact hdisjoint List.mem_cons_self (hsame ▸ List.mem_cons_self)
    have hlt := lt_of_le_of_ne hle' hdiffer
    intro other hother
    rcases List.mem_cons.1 hother with rfl | hrest
    · exact hlt
    · exact lt_of_lt_of_le hlt ((List.pairwise_cons.1 horder).1 other hrest)

end Components

/-- A graph is refused if it has circles, with the diagnostics for them. -/
theorem checkAcyclic_eq_error_iff {diagnostics : List Diagnostic} :
    graph.checkAcyclic components = .error diagnostics ↔
      graph.circles components ≠ [] ∧
        diagnostics = (graph.circles components).map circleDiagnostic := by
  rw [checkAcyclic]
  cases graph.circles components with
  | nil => simp
  | cons circle circles => simp [eq_comm]

end Graph

/-! ## Diagnostics -/

/-- The diagnostic names the members of the circle, in order, each between backticks. A definition
that is alone on its circle is said to refer to itself. -/
structure Reports (circle : List String) (diagnostic : Diagnostic) : Prop where
  /-- It has the code for circles. -/
  code : diagnostic.code.map ErrorCode.text = some "E300"
  /-- A definition alone on its circle refers to itself. -/
  single : ∀ name, circle = [name] →
    diagnostic.message = "circular definition: `" ++ name ++ "` refers to itself"
  /-- Several definitions are named in their order. -/
  several : 2 ≤ circle.length →
    diagnostic.message =
      "circular definition between " ++ ", ".intercalate (circle.map fun name => "`" ++ name ++ "`")

theorem reports_circleDiagnostic (circle : List String) :
    Reports circle (circleDiagnostic circle) where
  code := rfl
  single := by
    rintro name rfl
    have hquote : "circular definition: `" = "circular definition: " ++ "`" := by decide
    have htail : "` refers to itself" = "`" ++ " refers to itself" := by decide
    simp only [circleDiagnostic, Diagnostic.error, Diagnostic.withHelp, Diagnostic.ofMessage,
      List.map_cons, List.map_nil, hquote, htail, String.append_assoc]
  several := by
    intro hlength
    obtain _ | ⟨first, _ | ⟨second, others⟩⟩ := circle
    · simp at hlength
    · simp at hlength
    · rfl

end Dependency

namespace Schema

open Dependency

variable {schema : Schema}

/-- The definitions that reach some definition and are reached from it, and the definition itself,
which is among them: all of them once, in the order of declaration. -/
def IsCircle (schema : Schema) (circle : List String) : Prop :=
  circle.Sublist schema.names ∧
    ∃ name, TransGen schema.RefersTo name name ∧
      ∀ other, other ∈ circle ↔
        TransGen schema.RefersTo name other ∧ TransGen schema.RefersTo other name

/-- A schema is refused exactly if a definition reaches itself over references. Its circles are then
reported, one by one, in the order in which their first members are declared, whichever way the
components of the graph are listed. -/
theorem checkAcyclic_reports_circles (schema : Schema) {components : List (List String)}
    (hcomponents : schema.graph.IsComponents components) :
    ((∃ diagnostics, schema.graph.checkAcyclic components = .error diagnostics) ↔
        ∃ name, TransGen schema.RefersTo name name) ∧
      ∀ diagnostics, schema.graph.checkAcyclic components = .error diagnostics →
        ∃ circles : List (List String),
          (∀ circle, circle ∈ circles ↔ schema.IsCircle circle) ∧
            (circles.Pairwise fun a b => ∃ first ∈ a, ∀ other ∈ b,
              schema.names.idxOf first < schema.names.idxOf other) ∧
            List.Forall₂ Reports circles diagnostics := by
  have hnodup := nodup_names_graph schema
  constructor
  · have hnil := circles_graph_eq_nil_iff hcomponents
    rw [← not_exists] at hnil
    simp only [Graph.checkAcyclic_eq_error_iff, ne_eq, exists_and_left, exists_eq, and_true,
      hnil, not_not]
  · intro diagnostics herror
    obtain ⟨-, rfl⟩ := Graph.checkAcyclic_eq_error_iff.1 herror
    refine ⟨schema.graph.circles components, fun circle => ?_, ?_, ?_⟩
    · rw [Graph.mem_circles_iff hcomponents hnodup edges_subset_names, dependsOn_graph, names_graph]
      rfl
    · simpa only [names_graph] using Graph.pairwise_circles hcomponents hnodup
    · refine List.forall₂_map_right_iff.2 (List.forall₂_same.2 fun circle _ => ?_)
      exact reports_circleDiagnostic circle

/-- Two structs that refer to each other, one of them also to a third one, which refers to
itself. -/
def albums : Schema :=
  ⟨[⟨"Loop", .struct [⟨"parent", .label "Loop"⟩]⟩, ⟨"Left", .struct [⟨"right", .label "Right"⟩]⟩,
    ⟨"Right", .struct [⟨"left", .label "Left"⟩, ⟨"loops", .list (.label "Loop") none⟩]⟩], by decide⟩

/-- Both circles are reported, and the definition that stands alone comes first. -/
theorem reports_albums :
    albums.graph.IsComponents [["Loop"], ["Left", "Right"]] ∧
      ∃ circles : List (List String),
        (∀ circle, circle ∈ circles ↔ albums.IsCircle circle) ∧
          (circles.Pairwise fun a b => ∃ first ∈ a, ∀ other ∈ b,
            albums.names.idxOf first < albums.names.idxOf other) ∧
          List.Forall₂ Reports circles
            [circleDiagnostic ["Loop"], circleDiagnostic ["Left", "Right"]] := by
  have hcomponents : albums.graph.IsComponents [["Loop"], ["Left", "Right"]] := by
    have hsearch : albums.graph.components = [["Loop"], ["Left", "Right"]] := by decide +kernel
    rw [← hsearch]
    exact isComponents_graph albums
  have hcircles : albums.graph.circles [["Loop"], ["Left", "Right"]] =
      [["Loop"], ["Left", "Right"]] := by
    have hall : [["Loop"], ["Left", "Right"]].filter albums.graph.isCircle =
        [["Loop"], ["Left", "Right"]] := by decide
    have hloop : albums.graph.inOrder ["Loop"] = ["Loop"] := List.mergeSort_singleton _
    have hpair : albums.graph.inOrder ["Left", "Right"] = ["Left", "Right"] :=
      Graph.inOrder_eq_filter (by decide) (by decide) (by decide)
    rw [Graph.circles, hall, List.map_cons, List.map_cons, List.map_nil, hloop, hpair]
    exact List.mergeSort_of_pairwise (by decide)
  have herror : albums.graph.checkAcyclic [["Loop"], ["Left", "Right"]] =
      .error [circleDiagnostic ["Loop"], circleDiagnostic ["Left", "Right"]] := by
    rw [Graph.checkAcyclic, hcircles]
    rfl
  exact ⟨hcomponents, (checkAcyclic_reports_circles albums hcomponents).2 _ herror⟩

end Schema

end DatasetSchema
