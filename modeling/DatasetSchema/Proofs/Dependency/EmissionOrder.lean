import DatasetSchema.Dependency
import DatasetSchema.Proofs.Dependency.Circle
import DatasetSchema.Proofs.Dependency.Countdown
import Mathlib.Data.Fintype.Card
import Mathlib.Data.Set.Finite.Basic
import Mathlib.Order.WellFounded

/-!
# The order of emission

Two searches decide on the order of emission: the circles tell whether there is one, and the
countdown puts the definitions in order. They agree: without circles some definition can always be
declared, so the countdown leaves none out. The order found is the first of all such orders,
compared place by place by the order of declaration.

## Main definitions

* `Schema.IsArrangement`: an order in which every definition comes after those it refers to.

## Main results

* `Schema.isArrangement_run`: without circles the countdown makes such an order;
* `Schema.isArrangement_of_emissionOrder`: the order of emission is one of them;
* `Schema.eq_or_lex_of_isGreedy`: a greedy order is the first of them;
* `Schema.emissionOrder_graph_eq_ok_of_iterate`: the order of emission is found step by step;
* `Schema.emissionOrder_eq_least`: when there is an order of emission, and which one it is.
-/

namespace DatasetSchema.Schema

open Dependency Relation

variable {schema : Schema} {order other : List String} {name : String}

/-- The list has every defined name once, and every definition comes after those it refers to. -/
structure IsArrangement (schema : Schema) (order : List String) : Prop where
  /-- Every defined name is there once. -/
  perm : order.Perm schema.names
  /-- What a definition refers to comes first. -/
  idxOf_lt : ∀ name dependency, schema.RefersTo name dependency →
    order.idxOf dependency < order.idxOf name

theorem edges_subset_names : ∀ edge ∈ schema.graph.edges, edge.2 ∈ schema.graph.names := by
  rintro ⟨dependency, dependent⟩ hedge
  rw [names_graph]
  exact (mem_edges_graph_iff.1 hedge).mem_left

theorem nodup_names_graph (schema : Schema) : schema.graph.names.Nodup := by
  rw [names_graph]
  exact schema.nodup_names

/-- A definition can be declared if it is not, and all that it refers to is. -/
theorem isOpen_graph_iff :
    schema.graph.IsOpen order name ↔
      name ∈ schema.names ∧ name ∉ order ∧
        ∀ dependency, schema.RefersTo name dependency → dependency ∈ order := by
  rw [Graph.IsOpen, names_graph]
  simp only [mem_edges_graph_iff]

/-- If no definition reaches itself, some definition can be declared as long as not all are. -/
theorem exists_isOpen (hacyclic : ∀ name, ¬ TransGen schema.RefersTo name name)
    (hname : name ∈ schema.names) (hleft : name ∉ order) :
    ∃ name, schema.graph.IsOpen order name := by
  let Defined := {name // name ∈ schema.names}
  have : Finite Defined := (List.finite_toSet schema.names).to_subtype
  -- Going from a definition to those it refers to comes to an end.
  let Below : Defined → Defined → Prop := fun a b => TransGen schema.RefersTo b.1 a.1
  have : IsTrans Defined Below := ⟨fun _ _ _ hab hbc => hbc.trans hab⟩
  have : Std.Irrefl Below := ⟨fun a h => hacyclic a.1 h⟩
  have hwf : WellFounded Below := Finite.wellFounded_of_trans_of_irrefl Below
  obtain ⟨⟨least, hmem⟩, hleast, hmin⟩ := hwf.has_min {a | a.1 ∉ order} ⟨⟨name, hname⟩, hleft⟩
  refine ⟨least, isOpen_graph_iff.2 ⟨hmem, hleast, fun dependency hrefers => ?_⟩⟩
  by_contra hnot
  exact hmin ⟨dependency, hrefers.mem_right⟩ hnot (.single hrefers)

/-- Every definition of a greedy list comes after those it refers to. -/
theorem idxOf_lt_of_isGreedy (hgreedy : schema.graph.IsGreedy order) (hname : name ∈ order)
    {dependency : String} (hrefers : schema.RefersTo name dependency) :
    order.idxOf dependency < order.idxOf name := by
  obtain ⟨before, after, rfl⟩ := List.append_of_mem hname
  have hnext := hgreedy.isNext rfl
  have hdependency : dependency ∈ before := hnext.1.2.2 dependency (mem_edges_graph_iff.2 hrefers)
  rw [List.idxOf_append_of_mem hdependency, List.idxOf_append_of_notMem hnext.1.2.1,
    List.idxOf_cons_self]
  exact List.idxOf_lt_length_of_mem hdependency

/-- A greedy list of all definitions is an arrangement. -/
theorem isArrangement_of_isGreedy (hgreedy : schema.graph.IsGreedy order)
    (hall : schema.names ⊆ order) : schema.IsArrangement order where
  perm := by
    have hnodup : schema.names.Nodup := schema.nodup_names
    refine (List.perm_ext_iff_of_nodup hgreedy.nodup hnodup).2 fun name => ⟨?_, ?_⟩
    · intro hname
      rw [← names_graph]
      exact hgreedy.subset hname
    · exact fun hname => hall hname
  idxOf_lt _ _ hrefers := idxOf_lt_of_isGreedy hgreedy (hall hrefers.mem_left) hrefers

/-- If no definition reaches itself, the countdown arranges them all. -/
theorem isArrangement_run (hacyclic : ∀ name, ¬ TransGen schema.RefersTo name name) :
    schema.IsArrangement ((Countdown.start schema.graph).run schema.graph).order := by
  have hnodup := nodup_names_graph schema
  have hinvariant := Countdown.invariant_of_reachable hnodup edges_subset_names (.run .start)
  refine isArrangement_of_isGreedy hinvariant.isGreedy fun name hname => ?_
  -- If a definition were left out, some definition could still be declared, and the countdown went
  -- on.
  by_contra hleft
  obtain ⟨name, hopen⟩ := exists_isOpen hacyclic hname hleft
  exact Countdown.not_isOpen_run hnodup edges_subset_names name hopen

/-- Where a greedy order and another arrangement part, the greedy one takes the earlier
declaration. -/
theorem eq_or_lex_of_isGreedy (hgreedy : schema.graph.IsGreedy order)
    (horder : schema.IsArrangement order) (hother : schema.IsArrangement other)
    {before rest rest' : List String} (heq : order = before ++ rest)
    (heq' : other = before ++ rest') :
    rest = rest' ∨
      List.Lex (· < ·) (rest.map schema.names.idxOf) (rest'.map schema.names.idxOf) := by
  have hlength : rest.length = rest'.length := by
    have := (horder.perm.trans hother.perm.symm).length_eq
    rw [heq, heq', List.length_append, List.length_append] at this
    omega
  induction rest generalizing before rest' with
  | nil =>
    obtain rfl := List.length_eq_zero_iff.1 hlength.symm
    exact .inl rfl
  | cons a rest ih =>
    obtain _ | ⟨b, rest'⟩ := rest'
    · simp at hlength
    -- The orders part where their next names differ; until then the common names are moved over.
    by_cases hab : a = b
    · subst hab
      have hlength' : rest.length = rest'.length := by simpa using hlength
      have hrest : order = (before ++ [a]) ++ rest := by simpa using heq
      have hrest' : other = (before ++ [a]) ++ rest' := by simpa using heq'
      rcases ih hrest hrest' hlength' with rfl | hlex
      · exact .inl rfl
      · exact .inr (.cons hlex)
    · right
      have hnext := hgreedy.isNext heq
      have hnodup : other.Nodup := hother.perm.nodup_iff.2 schema.nodup_names
      have hb : b ∈ schema.names := hother.perm.subset (by simp [heq'])
      have hbefore : b ∉ before := by
        rw [heq'] at hnodup
        exact fun hmem => (List.nodup_append.1 hnodup).2.2 b hmem b (by simp) rfl
      -- All that `b` refers to comes before it in the other order, and so among the shared names.
      have hopen : schema.graph.IsOpen before b := by
        refine isOpen_graph_iff.2 ⟨hb, hbefore, fun dependency hrefers => ?_⟩
        have hlt := hother.idxOf_lt b dependency hrefers
        by_contra hnot
        rw [heq', List.idxOf_append_of_notMem hnot, List.idxOf_append_of_notMem hbefore,
          List.idxOf_cons_self] at hlt
        omega
      have hle := hnext.2 b hopen
      rw [names_graph] at hle
      have hne : schema.names.idxOf a ≠ schema.names.idxOf b := fun h =>
        hab ((List.idxOf_inj (by simpa using hnext.1.1)).1 h)
      exact .rel (lt_of_le_of_ne hle hne)

theorem dependsOn_graph (schema : Schema) : schema.graph.DependsOn = schema.RefersTo := by
  funext name dependency
  exact propext mem_edges_graph_iff

/-- The search finds the components of the graph of a schema. -/
theorem isComponents_graph (schema : Schema) :
    schema.graph.IsComponents schema.graph.components := by
  refine Graph.isComponents_components (nodup_names_graph schema) ?_
  rintro ⟨dependency, dependent⟩ hedge
  have hrefers := mem_edges_graph_iff.1 hedge
  rw [names_graph]
  exact ⟨hrefers.mem_right, hrefers.mem_left⟩

/-- There are no circles exactly if no definition reaches itself over references. -/
theorem circles_graph_eq_nil_iff {components : List (List String)}
    (hcomponents : schema.graph.IsComponents components) :
    schema.graph.circles components = [] ↔ ∀ name, ¬ TransGen schema.RefersTo name name := by
  rw [Graph.circles_eq_nil_iff hcomponents (nodup_names_graph schema) edges_subset_names,
    dependsOn_graph]

/-- The circles only decide whether there is an order; the order is that of the countdown. -/
theorem emissionOrder_graph_eq_ok_iff {components : List (List String)} :
    schema.graph.emissionOrder components = .ok order ↔
      schema.graph.circles components = [] ∧
        ((Countdown.start schema.graph).run schema.graph).order = order := by
  rw [Graph.emissionOrder, Graph.checkAcyclic]
  cases schema.graph.circles components <;> simp [bind, Except.bind, pure, Except.pure]

/-- The order is computed by as many steps of the countdown as are enough, unless a component is a
circle. -/
theorem emissionOrder_graph_eq_ok_of_iterate {components : List (List String)} (n : Nat)
    (hacyclic : ∀ component ∈ components, ¬ schema.graph.isCircle component)
    (hlast : (((Countdown.advance schema.graph)^[n] (.start schema.graph)).next?
      schema.graph).isNone)
    (horder : ((Countdown.advance schema.graph)^[n] (.start schema.graph)).order = order) :
    schema.graph.emissionOrder components = .ok order := by
  rw [emissionOrder_graph_eq_ok_iff,
    Countdown.run_eq_iterate_advance (Option.isNone_iff_eq_none.mp hlast)]
  exact ⟨Graph.circles_eq_nil_iff_forall_not_isCircle.mpr hacyclic, horder⟩

/-- The order of emission arranges the definitions. -/
theorem isArrangement_of_emissionOrder (h : schema.emissionOrder = .ok order) :
    schema.IsArrangement order := by
  obtain ⟨hnil, rfl⟩ := emissionOrder_graph_eq_ok_iff.1 h
  exact isArrangement_run ((circles_graph_eq_nil_iff (isComponents_graph schema)).1 hnil)

/-- Whichever way the components of the graph are listed, there is an order of emission exactly if
no definition reaches itself over references. It is then the first of all arrangements of the
definitions, compared by the order of declaration, and the order in which a countdown ends. In every
state of the countdown a name that is told of a declaration still misses some dependency. -/
theorem emissionOrder_eq_least (schema : Schema) {components : List (List String)}
    (hcomponents : schema.graph.IsComponents components) :
    ((∃ order, schema.graph.emissionOrder components = .ok order) ↔
        ∀ name, ¬ TransGen schema.RefersTo name name) ∧
      (∀ order, schema.graph.emissionOrder components = .ok order →
        schema.IsArrangement order ∧
          (∀ other, schema.IsArrangement other →
            order = other ∨
              List.Lex (· < ·) (order.map schema.names.idxOf) (other.map schema.names.idxOf)) ∧
          ∃ last, Countdown.Reachable schema.graph last ∧ last.next? schema.graph = none ∧
            last.order = order) ∧
      ∀ state, Countdown.Reachable schema.graph state →
        ∀ name pending, state.pending = name :: pending → 0 < state.missingOf name := by
  -- The components are needed for the circles only; the countdown does not depend on them.
  have hcircles := circles_graph_eq_nil_iff hcomponents
  have hinvariant : ∀ state, Countdown.Reachable schema.graph state →
      Countdown.Invariant schema.graph state := fun _ =>
    Countdown.invariant_of_reachable (nodup_names_graph schema) edges_subset_names
  refine ⟨?_, fun order hok => ?_, fun state hstate name pending hpending => ?_⟩
  · simp only [emissionOrder_graph_eq_ok_iff, exists_and_left, exists_eq', and_true]
    exact hcircles
  · obtain ⟨hnil, rfl⟩ := emissionOrder_graph_eq_ok_iff.1 hok
    have harrangement := isArrangement_run (hcircles.1 hnil)
    have hgreedy := (hinvariant _ (.run .start)).isGreedy
    refine ⟨harrangement, fun other hother => ?_, _, .run .start, Countdown.next?_run _ _, rfl⟩
    exact eq_or_lex_of_isGreedy hgreedy harrangement hother (List.nil_append _).symm
      (List.nil_append _).symm
  · exact (hinvariant state hstate).missingOf_pos hpending

/-- A struct that is declared before the class domain of its field. -/
def photos : Schema :=
  ⟨[⟨"Photo", .struct [⟨"tag", .label "Tag"⟩]⟩, ⟨"Tag", .classDomain ["cat"]⟩], by decide⟩

/-- The class domain is emitted first. -/
theorem isArrangement_photos :
    photos.graph.IsComponents [["Photo"], ["Tag"]] ∧ photos.IsArrangement ["Tag", "Photo"] := by
  have hcomponents : photos.graph.IsComponents [["Photo"], ["Tag"]] := by
    have hsearch : photos.graph.components = [["Photo"], ["Tag"]] := by decide +kernel
    rw [← hsearch]
    exact isComponents_graph photos
  have horder : photos.graph.emissionOrder [["Photo"], ["Tag"]] = .ok ["Tag", "Photo"] :=
    emissionOrder_graph_eq_ok_of_iterate 3 (by decide) (by decide) (by decide)
  exact ⟨hcomponents, ((emissionOrder_eq_least photos hcomponents).2.1 _ horder).1⟩

end DatasetSchema.Schema
