import DatasetSchema.Dependency.Graph

/-!
# The components of a graph

Definitions that reach each other over dependencies belong to one component, and every
definition belongs to one. The components are found by following the dependencies of each name
until no new name is met.
-/

namespace DatasetSchema.Dependency

/-- How many steps are left when some names are still unmet: each of them is met once, and then its
dependencies are looked at. -/
def work (next : String → List String) : List String → Nat
  | [] => 0
  | name :: names => (next name).length + 1 + work next names

/-- The steps that one name brings. -/
theorem work_erase (next : String → List String) {name : String} {names : List String}
    (h : name ∈ names) :
    work next names = (next name).length + 1 + work next (names.erase name) := by
  induction names with
  | nil => cases h
  | cons other names ih =>
    by_cases heq : other = name
    · subst heq
      simp [work]
    · have hmem : name ∈ names := by
        cases h with
        | head => exact absurd rfl heq
        | tail _ h => exact h
      rw [List.erase_cons_tail (by simpa using heq), work, ih hmem, work]
      omega

/-- Follows dependencies from the names in `pending` and removes every name met from `unmet`. -/
def unmetAfter (next : String → List String) (unmet pending : List String) : List String :=
  match pending with
  | [] => unmet
  | name :: pending =>
    if name ∈ unmet then unmetAfter next (unmet.erase name) (next name ++ pending)
    else unmetAfter next unmet pending
termination_by work next unmet + pending.length
decreasing_by
  · rw [work_erase next ‹name ∈ unmet›, List.length_append, List.length_cons]
    omega
  · simp

/-- The names of a list that are reached from a name over one or more dependencies, in list
order. -/
def reached (next : String → List String) (names : List String) (name : String) : List String :=
  let unmet := unmetAfter next names (next name)
  names.filter fun other => !unmet.contains other

/-- The components of a graph: the classes of names that reach each other. Members are in the order
of declaration, and so are the components by their first members. -/
def Graph.components (graph : Graph) : List (List String) :=
  -- What each name reaches is looked up often, so it is computed once.
  let table := graph.names.map fun name => (name, reached graph.incoming graph.names name)
  let reaches := fun (a b : String) => a == b || ((table.lookup a).getD []).contains b
  graph.names.filterMap fun name =>
    let members := graph.names.filter fun other => reaches name other && reaches other name
    if members.head? == some name then some members else none

end DatasetSchema.Dependency
