import DatasetSchema.Dependency.Component
import DatasetSchema.Proofs.Dependency.References
import Mathlib.Data.List.Basic
import Mathlib.Data.List.Perm.Basic

/-!
# The components of the graph

Two names belong to one component if each reaches the other over dependencies. Following
dependencies until no name is unmet finds exactly the names that are reached, and so the classes of
names that reach each other are the components.

## Main definitions

* `Dependency.Graph.IsComponents`: lists of names that are the components of a graph, in any order.

## Main results

* `Dependency.mem_reached_iff`: the names found are those reached;
* `Dependency.Graph.isComponents_components`: the search finds the components.
-/

namespace DatasetSchema.Dependency

open Relation

section Search

variable {next : String → List String} {names unmet pending : List String} {name other : String}

/-- A name that is met is reached from a name that was pending. -/
theorem reachable_of_not_mem_unmetAfter (hunmet : other ∈ unmet)
    (hmet : other ∉ unmetAfter next unmet pending) :
    ∃ origin ∈ pending, ReflTransGen (fun a b => b ∈ next a) origin other := by
  induction unmet, pending using unmetAfter.induct next with
  | case1 unmet =>
    rw [unmetAfter] at hmet
    exact absurd hunmet hmet
  | case2 unmet name pending hmem ih =>
    rw [unmetAfter, if_pos hmem] at hmet
    by_cases heq : other = name
    · exact ⟨name, List.mem_cons_self, heq ▸ .refl⟩
    · obtain ⟨origin, horigin, hpath⟩ := ih ((List.mem_erase_of_ne heq).2 hunmet) hmet
      rcases List.mem_append.1 horigin with hnext | hpending
      · exact ⟨name, List.mem_cons_self, hpath.head hnext⟩
      · exact ⟨origin, List.mem_cons_of_mem _ hpending, hpath⟩
  | case3 unmet name pending hmem ih =>
    rw [unmetAfter, if_neg hmem] at hmet
    obtain ⟨origin, horigin, hpath⟩ := ih hunmet hmet
    exact ⟨origin, List.mem_cons_of_mem _ horigin, hpath⟩

/-- When nothing is pending any more, no pending name is unmet, and the dependencies of all names
met are met. Until then they are met or pending. -/
theorem met_closed_unmetAfter (hnodup : unmet.Nodup)
    (hmet : ∀ a, a ∉ unmet → ∀ b ∈ next a, b ∉ unmet ∨ b ∈ pending) :
    (∀ a ∈ unmetAfter next unmet pending, a ∈ unmet ∧ a ∉ pending) ∧
      ∀ a, a ∉ unmetAfter next unmet pending → ∀ b ∈ next a, b ∉ unmetAfter next unmet pending := by
  induction unmet, pending using unmetAfter.induct next with
  | case1 unmet =>
    rw [unmetAfter]
    refine ⟨fun a ha => ⟨ha, List.not_mem_nil⟩, fun a ha b hb => ?_⟩
    exact (hmet a ha b hb).resolve_right List.not_mem_nil
  | case2 unmet name pending hmem ih =>
    rw [unmetAfter, if_pos hmem]
    -- The name is met now, and its dependencies are pending in its place.
    have herase : ∀ a, a ∉ unmet.erase name ↔ a = name ∨ a ∉ unmet := fun a => by
      rw [hnodup.mem_erase_iff]
      tauto
    have hmet' : ∀ a, a ∉ unmet.erase name → ∀ b ∈ next a,
        b ∉ unmet.erase name ∨ b ∈ next name ++ pending := by
      intro a ha b hb
      rw [herase, List.mem_append]
      rcases (herase a).1 ha with rfl | hold
      · exact .inr (.inl hb)
      · rcases hmet a hold b hb with hb | hb
        · exact .inl (.inr hb)
        · rcases List.mem_cons.1 hb with rfl | hb
          · exact .inl (.inl rfl)
          · exact .inr (.inr hb)
    obtain ⟨hunmet, hclosed⟩ := ih (hnodup.erase name) hmet'
    refine ⟨fun a ha => ?_, hclosed⟩
    obtain ⟨hmem', hpending⟩ := hunmet a ha
    obtain ⟨hne, hmem'⟩ := hnodup.mem_erase_iff.1 hmem'
    exact ⟨hmem', by simp_all⟩
  | case3 unmet name pending hmem ih =>
    rw [unmetAfter, if_neg hmem]
    -- The name was met before, and so it need not be pending.
    have hmet' : ∀ a, a ∉ unmet → ∀ b ∈ next a, b ∉ unmet ∨ b ∈ pending := by
      intro a ha b hb
      rcases hmet a ha b hb with hb | hb
      · exact .inl hb
      · rcases List.mem_cons.1 hb with rfl | hb
        · exact .inl hmem
        · exact .inr hb
    obtain ⟨hunmet, hclosed⟩ := ih hnodup hmet'
    refine ⟨fun a ha => ⟨(hunmet a ha).1, ?_⟩, hclosed⟩
    rintro hcons
    rcases List.mem_cons.1 hcons with rfl | hpending
    · exact hmem (hunmet a ha).1
    · exact (hunmet a ha).2 hpending

/-- The names found are those reached over one or more dependencies. -/
theorem mem_reached_iff (hnodup : names.Nodup)
    (hnames : ∀ a b, b ∈ next a → a ∈ names ∧ b ∈ names) :
    other ∈ reached next names name ↔ TransGen (fun a b => b ∈ next a) name other := by
  have hreached : other ∈ reached next names name ↔
      other ∈ names ∧ other ∉ unmetAfter next names (next name) := by
    simp [reached]
  have hstart : ∀ a, a ∉ names → ∀ b ∈ next a, b ∉ names ∨ b ∈ next name :=
    fun a ha b hb => absurd (hnames a b hb).1 ha
  obtain ⟨hunmet, hclosed⟩ := met_closed_unmetAfter hnodup hstart
  rw [hreached]
  constructor
  · rintro ⟨hmem, hmet⟩
    obtain ⟨origin, horigin, hpath⟩ := reachable_of_not_mem_unmetAfter hmem hmet
    exact TransGen.head' horigin hpath
  · intro hpath
    clear hreached
    -- The names met are closed under dependencies, so every name on the path is met.
    induction hpath with
    | single h => exact ⟨(hnames _ _ h).2, fun hmem => (hunmet _ hmem).2 h⟩
    | tail _ h ih => exact ⟨(hnames _ _ h).2, hclosed _ ih.2 _ h⟩

end Search

namespace Graph

variable {graph : Graph} {a b : String}

/-- A name depends on another if the graph has the edge between them. -/
def DependsOn (graph : Graph) (name dependency : String) : Prop :=
  (dependency, name) ∈ graph.edges

/-- Two names reach each other, or are the same. -/
def Mutual (graph : Graph) (a b : String) : Prop :=
  ReflTransGen graph.DependsOn a b ∧ ReflTransGen graph.DependsOn b a

/-- The lists are the components of the graph: every name is in one of them, together with the names
that it reaches and that reach it. The lists and the names in them may come in any order. -/
structure IsComponents (graph : Graph) (components : List (List String)) : Prop where
  /-- Every name is in one component. -/
  perm : components.flatten.Perm graph.names
  /-- No component is empty. -/
  ne_nil : ∀ component ∈ components, component ≠ []
  /-- Components are the classes of names that reach each other. -/
  mem_iff : ∀ component ∈ components, ∀ a ∈ component, ∀ b, b ∈ component ↔ graph.Mutual a b

theorem Mutual.symm (h : graph.Mutual a b) : graph.Mutual b a :=
  ⟨h.2, h.1⟩

theorem Mutual.trans {c : String} (hab : graph.Mutual a b) (hbc : graph.Mutual b c) :
    graph.Mutual a c :=
  ⟨hab.1.trans hbc.1, hbc.2.trans hab.2⟩

open Classical in
/-- The component of a name, in the order of declaration. -/
noncomputable def componentOf (graph : Graph) (name : String) : List String :=
  graph.names.filter fun other => graph.Mutual name other

theorem mem_componentOf_iff : b ∈ graph.componentOf a ↔ b ∈ graph.names ∧ graph.Mutual a b := by
  simp only [componentOf, List.mem_filter, decide_eq_true_eq]

/-- Names that reach each other have one component. -/
theorem componentOf_eq_of_mutual (h : graph.Mutual a b) :
    graph.componentOf a = graph.componentOf b := by
  refine List.filter_congr fun other _ => decide_eq_decide.2 ⟨fun ha => ?_, fun hb => ?_⟩
  · exact h.symm.trans ha
  · exact h.trans hb

/-- The search takes the component of each name that comes first in it. -/
theorem components_eq (hnodup : graph.names.Nodup)
    (hedges : ∀ edge ∈ graph.edges, edge.1 ∈ graph.names ∧ edge.2 ∈ graph.names) :
    graph.components = graph.names.filterMap fun name =>
      if (graph.componentOf name).head? == some name then some (graph.componentOf name)
      else none := by
  have hnext : (fun a b => b ∈ graph.incoming a) = graph.DependsOn := by
    ext a b
    exact mem_incoming_iff
  have hnames : ∀ a b, b ∈ graph.incoming a → a ∈ graph.names ∧ b ∈ graph.names := by
    intro a b hb
    obtain ⟨hdependency, hname⟩ := hedges _ (mem_incoming_iff.1 hb)
    exact ⟨hname, hdependency⟩
  -- What a name reaches is looked up in a table, which has every name.
  let table := graph.names.map fun name => (name, reached graph.incoming graph.names name)
  let reaches := fun (a b : String) => a == b || ((table.lookup a).getD []).contains b
  have hreaches : ∀ a ∈ graph.names, ∀ b, reaches a b ↔ ReflTransGen graph.DependsOn a b := by
    intro a ha b
    have hlookup : table.lookup a = some (reached graph.incoming graph.names a) :=
      List.lookup_graph _ ha
    rw [reflTransGen_iff_eq_or_transGen, ← hnext, ← mem_reached_iff hnodup hnames]
    simp only [reaches, hlookup, Option.getD_some, Bool.or_eq_true, beq_iff_eq,
      List.contains_iff_mem]
    exact or_congr_left eq_comm
  have hmembers : ∀ name ∈ graph.names,
      (graph.names.filter fun other => reaches name other && reaches other name) =
        graph.componentOf name := by
    intro name hname
    refine List.filter_congr fun other hother => ?_
    rw [Bool.eq_iff_iff, Bool.and_eq_true, hreaches name hname, hreaches other hother]
    simp only [decide_eq_true_eq]
    rfl
  rw [components]
  refine List.filterMap_congr fun name hname => ?_
  simp only [← hmembers name hname]
  rfl

/-- A name has the component of the first name in it. -/
theorem exists_head?_componentOf {name : String} (h : name ∈ graph.names) :
    ∃ first ∈ graph.names,
      (graph.componentOf first).head? = some first ∧ name ∈ graph.componentOf first := by
  have hself : name ∈ graph.componentOf name := mem_componentOf_iff.2 ⟨h, .refl, .refl⟩
  cases hcomponent : graph.componentOf name with
  | nil => simp [hcomponent] at hself
  | cons first rest =>
    have hmember : first ∈ graph.componentOf name := by simp [hcomponent]
    obtain ⟨hmem, hmutual⟩ := mem_componentOf_iff.1 hmember
    have heq := componentOf_eq_of_mutual hmutual
    refine ⟨first, hmem, ?_, heq ▸ hself⟩
    rw [← heq, hcomponent]
    rfl

section Components

variable (hnodup : graph.names.Nodup)
  (hedges : ∀ edge ∈ graph.edges, edge.1 ∈ graph.names ∧ edge.2 ∈ graph.names)
include hnodup hedges

/-- A component is listed at the name that comes first in it. -/
theorem mem_components_iff {component : List String} :
    component ∈ graph.components ↔
      ∃ name ∈ graph.names, (graph.componentOf name).head? = some name ∧
        graph.componentOf name = component := by
  simp [components_eq hnodup hedges, List.mem_filterMap]

/-- No name is in two of the components that are found. -/
theorem disjoint_components : graph.components.Pairwise List.Disjoint := by
  rw [components_eq hnodup hedges, List.pairwise_filterMap]
  refine hnodup.imp fun {a b} hne c hc c' hc' x hx hx' => hne ?_
  obtain ⟨ha, rfl⟩ : (graph.componentOf a).head? = some a ∧ graph.componentOf a = c := by
    simpa using hc
  obtain ⟨hb, rfl⟩ : (graph.componentOf b).head? = some b ∧ graph.componentOf b = c' := by
    simpa using hc'
  -- The shared name joins the two components, and a component has one first name.
  have hmutual := (mem_componentOf_iff.1 hx).2.trans (mem_componentOf_iff.1 hx').2.symm
  rw [componentOf_eq_of_mutual hmutual, hb] at ha
  exact (Option.some.inj ha).symm

/-- Every name is in one of the components that are found. -/
theorem perm_flatten_components : graph.components.flatten.Perm graph.names := by
  have hflat : graph.components.flatten.Nodup := by
    refine List.nodup_flatten.2 ⟨fun component hcomponent => ?_, disjoint_components hnodup hedges⟩
    obtain ⟨name, -, -, rfl⟩ := (mem_components_iff hnodup hedges).1 hcomponent
    exact hnodup.filter _
  refine (List.perm_ext_iff_of_nodup hflat hnodup).2 fun name => ?_
  rw [List.mem_flatten]
  constructor
  · rintro ⟨component, hcomponent, hname⟩
    obtain ⟨first, -, -, rfl⟩ := (mem_components_iff hnodup hedges).1 hcomponent
    exact (mem_componentOf_iff.1 hname).1
  · intro hname
    obtain ⟨first, hmem, hhead, hname'⟩ := exists_head?_componentOf hname
    exact ⟨_, (mem_components_iff hnodup hedges).2 ⟨first, hmem, hhead, rfl⟩, hname'⟩

/-- The search finds the components of a graph with edges between its names. -/
theorem isComponents_components : graph.IsComponents graph.components := by
  refine ⟨perm_flatten_components hnodup hedges, ?_, ?_⟩
  · intro component hcomponent hnil
    obtain ⟨name, -, hhead, rfl⟩ := (mem_components_iff hnodup hedges).1 hcomponent
    rw [hnil] at hhead
    contradiction
  · intro component hcomponent a ha b
    obtain ⟨name, -, -, rfl⟩ := (mem_components_iff hnodup hedges).1 hcomponent
    obtain ⟨haname, hna⟩ := mem_componentOf_iff.1 ha
    rw [mem_componentOf_iff]
    constructor
    · rintro ⟨-, hnb⟩
      exact hna.symm.trans hnb
    · intro hab
      refine ⟨?_, hna.trans hab⟩
      -- A name at the end of a path is the target of an edge, and so it is in the graph.
      rcases reflTransGen_iff_eq_or_transGen.1 hab.1 with rfl | hpath
      · exact haname
      · obtain ⟨c, -, hcb⟩ := TransGen.tail'_iff.1 hpath
        exact (hedges _ hcb).1

end Components

end Graph

end DatasetSchema.Dependency
