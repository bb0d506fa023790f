import DatasetSchema.Dependency.Circle
import DatasetSchema.Proofs.Dependency.Component

/-!
# Names on a circle

The circles are the components with a name that reaches itself. So there is a circle exactly if some
name reaches itself, in whatever order the components are given.

## Main results

* `Dependency.Graph.isCircle_iff`: a component is a circle if one of its names reaches itself;
* `Dependency.Graph.circles_eq_nil_iff`: a graph without circles is one without a
  name that reaches itself.
-/

namespace DatasetSchema.Dependency.Graph

open Relation

variable {graph : Graph} {components : List (List String)} {component : List String}

/-- No name is in a component twice. -/
theorem IsComponents.nodup (h : graph.IsComponents components) (hnodup : graph.names.Nodup)
    (hcomponent : component ∈ components) : component.Nodup :=
  (List.nodup_flatten.1 (h.perm.nodup_iff.2 hnodup)).1 component hcomponent

/-- A component is a circle exactly if one of its names reaches itself. -/
theorem isCircle_iff (h : graph.IsComponents components) (hnodup : graph.names.Nodup)
    (hcomponent : component ∈ components) :
    graph.isCircle component ↔ ∃ name ∈ component, TransGen graph.DependsOn name name := by
  have hmem := h.mem_iff component hcomponent
  match component with
  | [] => exact absurd rfl (h.ne_nil [] hcomponent)
  | [single] =>
    rw [isCircle, List.contains_iff_mem]
    constructor
    · intro hedge
      exact ⟨single, List.mem_cons_self, .single hedge⟩
    · rintro ⟨name, hname, hpath⟩
      obtain rfl := List.mem_singleton.1 hname
      -- The first name on the way back belongs to the component, and so it is the same name.
      obtain ⟨next, hedge, hback⟩ := TransGen.head'_iff.1 hpath
      have hnext : next ∈ [name] := (hmem name hname next).2 ⟨.single hedge, hback⟩
      obtain rfl := List.mem_singleton.1 hnext
      exact hedge
  | first :: second :: others =>
    have hne : second ≠ first := by
      intro heq
      have hmember : first ∈ second :: others := heq ▸ List.mem_cons_self
      exact (List.nodup_cons.1 (h.nodup hnodup hcomponent)).1 hmember
    have hmutual : graph.Mutual first second :=
      (hmem first List.mem_cons_self second).1 (List.mem_cons_of_mem first List.mem_cons_self)
    have hpath : TransGen graph.DependsOn first second :=
      (reflTransGen_iff_eq_or_transGen.1 hmutual.1).resolve_left hne
    exact ⟨fun _ => ⟨first, List.mem_cons_self, hpath.trans_left hmutual.2⟩, fun _ => rfl⟩

/-- There is no circle exactly if none of the components is one. -/
theorem circles_eq_nil_iff_forall_not_isCircle :
    graph.circles components = [] ↔ ∀ component ∈ components, ¬ graph.isCircle component := by
  rw [circles, ← List.length_eq_zero_iff, List.length_mergeSort, List.length_map,
    List.length_eq_zero_iff, List.filter_eq_nil_iff]

/-- There is no circle exactly if no name reaches itself. -/
theorem circles_eq_nil_iff (h : graph.IsComponents components) (hnodup : graph.names.Nodup)
    (hedges : ∀ edge ∈ graph.edges, edge.2 ∈ graph.names) :
    graph.circles components = [] ↔ ∀ name, ¬ TransGen graph.DependsOn name name := by
  rw [circles_eq_nil_iff_forall_not_isCircle]
  constructor
  · intro hnone name hpath
    obtain ⟨next, hedge, -⟩ := TransGen.head'_iff.1 hpath
    have hname : name ∈ components.flatten := h.perm.mem_iff.2 (hedges _ hedge)
    obtain ⟨component, hcomponent, hmember⟩ := List.mem_flatten.1 hname
    exact hnone component hcomponent ((isCircle_iff h hnodup hcomponent).2 ⟨name, hmember, hpath⟩)
  · intro hnone component hcomponent hcircle
    obtain ⟨name, -, hpath⟩ := (isCircle_iff h hnodup hcomponent).1 hcircle
    exact hnone name hpath

end DatasetSchema.Dependency.Graph
