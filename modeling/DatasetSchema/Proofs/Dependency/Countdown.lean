import DatasetSchema.Dependency.Countdown
import Mathlib.Data.List.Basic
import Mathlib.Data.List.Nodup
import Mathlib.Logic.Function.Iterate

/-!
# What a countdown preserves

In every state of a countdown the count of a name is the number of edges to it from names that are
not declared, and one more if it is still to be told of the last declaration. Hence no count is ever
taken below zero, a name is ready exactly when it could be declared, and every declared name was the
first one that could be.

## Main definitions

* `Graph.IsOpen`: a name can be declared when others are;
* `Graph.IsGreedy`: every name of a list is the first one that can be declared after those before
  it;
* `Countdown.Invariant`: what holds in every state;
* `Countdown.advance`: one step, where the last state stays as it is.

## Main results

* `Countdown.invariant_of_reachable`: the invariant holds in every reachable state;
* `Countdown.Invariant.missingOf_pos`: whoever is told of a declaration has something to count down;
* `Countdown.not_isOpen_run`: when a countdown ends, no name can be declared any more;
* `Countdown.run_eq_iterate_advance`: the last state is computed by as many steps as are enough.
-/

namespace DatasetSchema.Dependency

namespace Graph

variable {graph : Graph} {declared : List String} {name other : String}

/-- The name is not declared and all its dependencies are. -/
def IsOpen (graph : Graph) (declared : List String) (name : String) : Prop :=
  name ∈ graph.names ∧ name ∉ declared ∧
    ∀ dependency, (dependency, name) ∈ graph.edges → dependency ∈ declared

/-- The name is the first one that can be declared. -/
def IsNext (graph : Graph) (declared : List String) (name : String) : Prop :=
  graph.IsOpen declared name ∧
    ∀ other, graph.IsOpen declared other → graph.names.idxOf name ≤ graph.names.idxOf other

/-- Every name of the list is the first one that can be declared after those before it. -/
inductive IsGreedy (graph : Graph) : List String → Prop
  | nil : IsGreedy graph []
  | snoc {order : List String} {name : String} :
      IsGreedy graph order → graph.IsNext order name → IsGreedy graph (order ++ [name])

theorem IsGreedy.nodup {order : List String} (h : graph.IsGreedy order) : order.Nodup := by
  induction h with
  | nil => exact List.nodup_nil
  | snoc _ hnext ih => exact List.nodup_append.2 ⟨ih, List.nodup_singleton _, by
      rintro a ha b hb rfl
      exact hnext.1.2.1 (List.mem_singleton.1 hb ▸ ha)⟩

theorem IsGreedy.subset {order : List String} (h : graph.IsGreedy order) : order ⊆ graph.names := by
  induction h with
  | nil => exact List.nil_subset _
  | snoc _ hnext ih => exact List.append_subset.2 ⟨ih, by simpa using hnext.1.1⟩

/-- Each name of a greedy list was next after the names before it. -/
theorem IsGreedy.isNext {order before after : List String} (h : graph.IsGreedy order)
    (heq : order = before ++ name :: after) : graph.IsNext before name := by
  induction h generalizing after with
  | nil => simp at heq
  | @snoc order last _ hnext ih =>
    rcases List.eq_nil_or_concat after with rfl | ⟨after, other, rfl⟩
    · obtain ⟨rfl, hlast⟩ := List.append_inj' heq rfl
      obtain rfl := List.singleton_inj.1 hlast
      exact hnext
    · have heq' : order ++ [last] = (before ++ name :: after) ++ [other] := by simpa using heq
      exact ih (List.append_inj' heq' rfl).1

/-- The first element with a property stands before all others with it. -/
theorem idxOf_le_of_find? {names : List String} {p : String → Bool}
    (h : names.find? p = some name) (hother : p other) : names.idxOf name ≤ names.idxOf other := by
  obtain ⟨hname, before, after, rfl, hbefore⟩ := List.find?_eq_some_iff_append.1 h
  have hnot : ∀ a, p a → a ∉ before := fun a ha hmem => by
    have := hbefore a hmem
    simp [ha] at this
  rw [List.idxOf_append_of_notMem (hnot name hname),
    List.idxOf_append_of_notMem (hnot other hother), List.idxOf_cons_self]
  omega

/-- The number of edges to a name from names that are not declared. -/
def undeclared (graph : Graph) (declared : List String) (name : String) : Nat :=
  graph.edges.countP fun edge => edge.2 == name && !declared.contains edge.1

theorem undeclared_nil : graph.undeclared [] name = graph.inDegree name := by
  simp [undeclared, inDegree]

/-- A name has no edge from an undeclared name if all its dependencies are declared. -/
theorem undeclared_eq_zero_iff :
    graph.undeclared declared name = 0 ↔
      ∀ dependency, (dependency, name) ∈ graph.edges → dependency ∈ declared := by
  rw [undeclared, List.countP_eq_zero]
  constructor
  · intro h dependency hedge
    simpa using h (dependency, name) hedge
  · rintro h ⟨dependency, dependent⟩ hedge
    by_cases heq : dependent = name
    · subst heq
      simp [h dependency hedge]
    · simp [heq]

/-- A name is told as often as there are edges to it from the declared name. -/
theorem count_dependents :
    (graph.dependents other).count name =
      graph.edges.countP fun edge => edge.2 == name && edge.1 == other := by
  rw [dependents, List.count, List.countP_map, List.countP_filter]
  rfl

/-- The edges that a declaration settles are those over which dependents are told. -/
theorem undeclared_concat (h : other ∉ declared) :
    graph.undeclared (declared ++ [other]) name + (graph.dependents other).count name =
      graph.undeclared declared name := by
  rw [count_dependents, undeclared, undeclared]
  induction graph.edges with
  | nil => rfl
  | cons edge edges ih =>
    simp only [List.countP_cons, ← ih]
    -- An edge to the name is settled now, was settled before or is still open.
    by_cases htarget : edge.2 = name
    · by_cases hsource : edge.1 = other
      · simp [htarget, hsource, h]
        omega
      · simp [htarget, hsource]
        omega
    · simp [htarget]

end Graph

namespace Countdown

variable {graph : Graph} {state state' : Countdown} {name other : String}

theorem missingOf_start (h : name ∈ graph.names) :
    (start graph).missingOf name = graph.inDegree name := by
  simp only [missingOf, start, List.lookup_graph _ h, Option.getD_some]

/-- Only the name that is told counts one less. -/
theorem missingOf_tell :
    (state.tell name).missingOf other =
      if other = name then state.missingOf other - 1 else state.missingOf other := by
  simp only [missingOf, tell]
  induction state.missing with
  | nil => simp [countDown]
  | cons count missing ih =>
    rw [countDown_cons, List.lookup_cons, List.lookup_cons]
    -- The name that is looked up stops at its own count, whichever name is told.
    by_cases hother : other = count.1
    · subst hother
      by_cases hname : count.1 = name <;> simp [hname]
    · have hne : (other == count.1) = false := by simpa using hother
      have hkey : (if count.1 = name then (count.1, count.2 - 1) else count).1 = count.1 := by
        split <;> rfl
      rw [hkey, hne]
      exact ih

theorem mem_ready_tell :
    other ∈ (state.tell name).ready ↔
      other ∈ state.ready ∨ other = name ∧ state.missingOf name = 1 := by
  simp only [tell]
  split <;> simp_all

/-- What holds in every state of a countdown. -/
structure Invariant (graph : Graph) (state : Countdown) : Prop where
  /-- A name misses its undeclared dependencies, and what it is still to be told of. -/
  missingOf_eq : ∀ name ∈ graph.names,
    state.missingOf name = graph.undeclared state.order name + state.pending.count name
  /-- Only names of the graph are told anything. -/
  pending_subset : state.pending ⊆ graph.names
  /-- A name is ready if it misses nothing and is not declared. -/
  mem_ready_iff : ∀ name, name ∈ state.ready ↔
    name ∈ graph.names ∧ name ∉ state.order ∧ state.missingOf name = 0
  /-- No name is ready twice. -/
  nodup_ready : state.ready.Nodup
  /-- A declared name misses nothing. -/
  missingOf_order : ∀ name ∈ state.order, state.missingOf name = 0
  /-- Every declaration was the first one possible. -/
  isGreedy : graph.IsGreedy state.order

/-- A name that is to be told of a declaration has something to count down. -/
theorem Invariant.missingOf_pos (h : Invariant graph state) {pending : List String}
    (hpending : state.pending = name :: pending) : 0 < state.missingOf name := by
  have hmem : name ∈ graph.names := h.pending_subset (by simp [hpending])
  rw [h.missingOf_eq name hmem, hpending, List.count_cons_self]
  omega

theorem invariant_start (hnodup : graph.names.Nodup) : Invariant graph (start graph) where
  missingOf_eq name hname := by
    rw [missingOf_start hname]
    simp [start, Graph.undeclared_nil]
  pending_subset := List.nil_subset _
  mem_ready_iff name := by
    by_cases hname : name ∈ graph.names
    · rw [missingOf_start hname]
      simp [start, hname]
    · simp [start, hname]
  nodup_ready := hnodup.filter _
  missingOf_order name hname := by simp [start] at hname
  isGreedy := .nil

/-- Telling a pending name keeps the invariant: what it is told of is no longer pending, and it gets
ready when it counts down to zero. -/
theorem Invariant.tell (h : Invariant graph state) {pending : List String}
    (hpending : state.pending = name :: pending) :
    Invariant graph ({ state with pending }.tell name) := by
  -- A name that misses something is not declared, and so it may get ready.
  have hpos : 0 < state.missingOf name := h.missingOf_pos hpending
  have hmissing : ∀ other, ({ state with pending }.tell name).missingOf other =
      if other = name then state.missingOf other - 1 else state.missingOf other := fun other =>
    missingOf_tell
  have hname : name ∉ state.order := fun hmem => by
    have := h.missingOf_order name hmem
    omega
  have hnames : name ∈ graph.names := h.pending_subset (by simp [hpending])
  constructor
  case missingOf_eq =>
    intro other hother
    have hold := h.missingOf_eq other hother
    rw [hpending, List.count_cons] at hold
    rw [hmissing]
    change _ = graph.undeclared state.order other + pending.count other
    by_cases heq : other = name
    · subst heq
      simp only [beq_self_eq_true, if_true] at hold ⊢
      omega
    · have hne : (name == other) = false := by simpa using Ne.symm heq
      simpa [heq, hne] using hold
  case pending_subset =>
    exact fun other hother =>
      h.pending_subset (by simp [hpending, show other ∈ pending from hother])
  case mem_ready_iff =>
    intro other
    rw [mem_ready_tell, hmissing]
    change (other ∈ state.ready ∨ other = name ∧ state.missingOf name = 1) ↔
      other ∈ graph.names ∧ other ∉ state.order ∧ _
    rw [h.mem_ready_iff]
    by_cases heq : other = name
    · subst heq
      simp only [hnames, hname, if_true, not_false_eq_true, true_and]
      omega
    · simp [heq]
  case nodup_ready =>
    simp only [Countdown.tell]
    split
    · next hone =>
      refine List.nodup_append.2 ⟨h.nodup_ready, List.nodup_singleton _, ?_⟩
      rintro other hother _ hsingle rfl
      obtain rfl := List.mem_singleton.1 hsingle
      have hzero := ((h.mem_ready_iff other).1 hother).2.2
      change state.missingOf other = 1 at hone
      omega
    · exact h.nodup_ready
  case missingOf_order =>
    intro other hother
    have hzero := h.missingOf_order other hother
    rw [hmissing]
    split <;> omega
  case isGreedy => exact h.isGreedy

/-- When nothing is pending, the names that are ready are those that can be declared. -/
theorem Invariant.mem_ready_iff_isOpen (h : Invariant graph state) (hpending : state.pending = []) :
    name ∈ state.ready ↔ graph.IsOpen state.order name := by
  rw [h.mem_ready_iff, Graph.IsOpen]
  refine and_congr_right fun hname => and_congr_right fun _ => ?_
  rw [h.missingOf_eq name hname, hpending, List.count_nil, Nat.add_zero,
    Graph.undeclared_eq_zero_iff]

/-- Declaring the first name that is ready keeps the invariant: its edges are settled, and as
many names are pending. -/
theorem Invariant.declare (h : Invariant graph state) (hpending : state.pending = [])
    (hedges : ∀ edge ∈ graph.edges, edge.2 ∈ graph.names)
    (hfind : graph.names.find? state.ready.contains = some name) :
    Invariant graph (state.declare graph name) := by
  have hready : name ∈ state.ready := by simpa using List.find?_some hfind
  have hopen : graph.IsOpen state.order name := (h.mem_ready_iff_isOpen hpending).1 hready
  constructor
  case missingOf_eq =>
    -- The settled edges of a name are as many as the times that it is pending.
    intro other hother
    have hold := h.missingOf_eq other hother
    rw [hpending, List.count_nil, Nat.add_zero, ← Graph.undeclared_concat hopen.2.1] at hold
    exact hold
  case pending_subset =>
    intro other hother
    obtain ⟨edge, hedge, rfl⟩ := List.mem_map.1 hother
    exact hedges edge (List.mem_filter.1 hedge).1
  case mem_ready_iff =>
    intro other
    change other ∈ state.ready.erase name ↔
      other ∈ graph.names ∧ other ∉ state.order ++ [name] ∧ state.missingOf other = 0
    rw [h.nodup_ready.mem_erase_iff, h.mem_ready_iff, List.mem_append, List.mem_singleton]
    tauto
  case nodup_ready => exact h.nodup_ready.erase name
  case missingOf_order =>
    intro other hother
    rcases List.mem_append.1 hother with hold | hnew
    · exact h.missingOf_order other hold
    · obtain rfl := List.mem_singleton.1 hnew
      exact ((h.mem_ready_iff other).1 hready).2.2
  case isGreedy =>
    refine h.isGreedy.snoc ⟨hopen, fun other hother => Graph.idxOf_le_of_find? hfind ?_⟩
    simpa using (h.mem_ready_iff_isOpen hpending).2 hother

/-- Every step keeps the invariant. -/
theorem Invariant.next (h : Invariant graph state)
    (hedges : ∀ edge ∈ graph.edges, edge.2 ∈ graph.names)
    (hnext : state.next? graph = some state') : Invariant graph state' := by
  unfold next? at hnext
  split at hnext
  · next name pending hpending =>
    obtain rfl := Option.some.inj hnext
    exact h.tell hpending
  · next hpending =>
    obtain ⟨name, hfind, rfl⟩ := Option.map_eq_some_iff.1 hnext
    exact h.declare hpending hedges hfind

/-- The states that a countdown goes through. -/
inductive Reachable (graph : Graph) : Countdown → Prop
  | start : Reachable graph (start graph)
  | next {state state' : Countdown} :
      Reachable graph state → state.next? graph = some state' → Reachable graph state'

/-- The invariant holds in every state that a countdown goes through. -/
theorem invariant_of_reachable (hnodup : graph.names.Nodup)
    (hedges : ∀ edge ∈ graph.edges, edge.2 ∈ graph.names) (h : Reachable graph state) :
    Invariant graph state := by
  induction h with
  | start => exact invariant_start hnodup
  | next _ hnext ih => exact ih.next hedges hnext

/-- A countdown ends in one of its states. -/
theorem Reachable.run (h : Reachable graph state) : Reachable graph (state.run graph) := by
  induction state using run.induct graph with
  | case1 state state' hnext ih =>
    rw [Countdown.run, hnext]
    exact ih (h.next hnext)
  | case2 state hnext =>
    rwa [Countdown.run, hnext]

/-- A countdown ends where no step is left. -/
theorem next?_run (graph : Graph) (state : Countdown) : (state.run graph).next? graph = none := by
  induction state using run.induct graph with
  | case1 state state' hnext ih => rwa [run, hnext]
  | case2 state hnext => rwa [run, hnext]

/-- When a countdown ends, no name can be declared any more. -/
theorem not_isOpen_run (hnodup : graph.names.Nodup)
    (hedges : ∀ edge ∈ graph.edges, edge.2 ∈ graph.names) (name : String) :
    ¬ graph.IsOpen ((start graph).run graph).order name := by
  intro hopen
  have hinvariant := invariant_of_reachable hnodup hedges (Reachable.run .start)
  have hend := next?_run graph (start graph)
  unfold next? at hend
  split at hend
  · cases hend
  · next hpending =>
    have hready := (hinvariant.mem_ready_iff_isOpen hpending).2 hopen
    have hnone := List.find?_eq_none.1 (Option.map_eq_none_iff.1 hend) name hopen.1
    exact hnone (by simpa using hready)

/-! ## Computing the last state -/

/-- One step of a countdown, where the last state stays as it is. -/
def advance (graph : Graph) (state : Countdown) : Countdown :=
  (state.next? graph).getD state

/-- If a countdown is over after some steps, it ends in the state that it is in then. -/
theorem run_eq_iterate_advance {n : Nat} (h : ((advance graph)^[n] state).next? graph = none) :
    state.run graph = (advance graph)^[n] state := by
  induction n generalizing state with
  | zero =>
    rw [Function.iterate_zero_apply] at h ⊢
    rw [run, h]
  | succ n ih =>
    rw [Function.iterate_succ_apply] at h ⊢
    cases hnext : state.next? graph with
    | none =>
      have hlast : advance graph state = state := by rw [advance, hnext, Option.getD_none]
      rw [hlast] at h ⊢
      exact ih h
    | some state' =>
      have hstep : advance graph state = state' := by rw [advance, hnext, Option.getD_some]
      rw [hstep] at h ⊢
      rw [run, hnext]
      exact ih h

end Countdown

end DatasetSchema.Dependency
